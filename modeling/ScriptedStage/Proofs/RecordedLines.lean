import Mathlib.Data.List.Forall2
import ScriptedStage.Recording.Recorder

/-!
Lines of a recording, read back. What a file says is what a reader finds in it, and the reader
here knows nothing of how the lines came about: it goes over the characters of a line from left
to right and gives the value that the line stands for, or none if the line is not well formed.
It knows what recordings of sessions have in them, which are texts, numbers, lists, and
mappings with texts for keys.

A text is read in two steps. Its characters and escapes give UTF-16 units, and two units that belong
together give one character. A number ends where no more of its characters come, so what is read
back depends on what follows (`Ends`); all else ends with a character of its own.

What is proved:
  1. `readText_text`: a text is read back, whatever its characters;
  2. `Reads.number`, `Reads.list` and `Reads.record`: how the parts of a line make up
     what is read from it;
  3. `Plain.read`: a value that was written is read back.
-/
namespace ScriptedStage

namespace Recording

/-! ## The reader -/

/-- The number that hexadecimal digits stand for. -/
def hexNumber (cs : List Char) : Option Nat :=
  cs.foldlM (fun n c => (Numeric.baseDigit? 16 c).map (16 * n + ·)) 0

/-- The unit that a letter stands for after a backslash. -/
def escapedUnit : Char → Option Nat
  | '"' => some 34
  | '\\' => some 92
  | 'n' => some 10
  | 'r' => some 13
  | 't' => some 9
  | 'b' => some 8
  | 'f' => some 12
  | _ => none

/-- The units of a text up to the quote that ends it, and what follows. -/
def readUnits : List Char → Option (List Nat × List Char)
  | [] => none
  | '"' :: rest => some ([], rest)
  | '\\' :: 'u' :: a :: b :: c :: d :: rest => do
    let unit ← hexNumber [a, b, c, d]
    let (units, rest) ← readUnits rest
    return (unit :: units, rest)
  | '\\' :: c :: rest => do
    let unit ← escapedUnit c
    let (units, rest) ← readUnits rest
    return (unit :: units, rest)
  | c :: rest => do
    let (units, rest) ← readUnits rest
    return (c.toNat :: units, rest)

/-- The characters of UTF-16 units: a high unit and a low one after it are one character. -/
def joinUnits : List Nat → List Char
  | [] => []
  | [unit] => [Char.ofNat unit]
  | high :: low :: rest =>
    if 0xD800 ≤ high ∧ high < 0xDC00 ∧ 0xDC00 ≤ low ∧ low < 0xE000 then
      Char.ofNat (0x10000 + (high - 0xD800) * 0x400 + (low - 0xDC00)) :: joinUnits rest
    else Char.ofNat high :: joinUnits (low :: rest)

/-- A text in quotes. -/
def readText : List Char → Option (String × List Char)
  | '"' :: rest => (readUnits rest).map fun p => (String.ofList (joinUnits p.1), p.2)
  | _ => none

/-- The characters of which numbers are made. -/
def isNumeric (c : Char) : Bool := c.isDigit || c = '-' || c = '+' || c = '.' || c = 'e' || c = 'E'

/-- The number that characters stand for: an integer if they are digits with at most a
sign, or else a double. -/
def numberOf (cs : List Char) : Option Value :=
  let digits := if cs.head? = some '-' then cs.tail else cs
  if digits.isEmpty || !digits.all Char.isDigit then (Numeric.readFloatChars cs).map .float
  else
    let n : Int := Nat.ofDigitChars 10 digits 0
    some (.int (if cs.head? = some '-' then -n else n))

/-- A number, as long as its characters go on. -/
def readNumber (cs : List Char) : Option (Value × List Char) :=
  (numberOf (cs.takeWhile isNumeric)).map fun v => (v, cs.dropWhile isNumeric)

section Items

variable {α : Type} (item : List Char → Option (α × List Char)) (closing : Char)

/-- At least one item, a comma and a blank between each two, up to a closing character. -/
def readSeries : Nat → List Char → Option (List α × List Char)
  | 0, _ => none
  | n + 1, cs =>
    match item cs with
    | none => none
    | some (a, ',' :: ' ' :: rest) => (readSeries n rest).map fun p => (a :: p.1, p.2)
    | some (a, c :: rest) => if c = closing then some ([a], rest) else none
    | some (_, []) => none

/-- Items up to a closing character, if there are any. -/
def readItems (n : Nat) (cs : List Char) : Option (List α × List Char) :=
  if cs.head? = some closing then some ([], cs.tail) else readSeries item closing n cs

end Items

/-- An entry of a mapping, with a text for its key. -/
def readEntry (item : List Char → Option (Value × List Char)) (cs : List Char) :
    Option ((Key × Value) × List Char) :=
  match readText cs with
  | some (key, ':' :: ' ' :: rest) => (item rest).map fun p => ((.str key, p.1), p.2)
  | _ => none

/-- A value, and what follows it. The bound is on the depth of values in values and on the length of
lists, and as many as a line has characters are enough. -/
def readValue : Nat → List Char → Option (Value × List Char)
  | 0, _ => none
  | n + 1, cs =>
    match cs with
    | '"' :: _ => (readText cs).map fun p => (.str p.1, p.2)
    | '[' :: rest => (readItems (readValue n) ']' n rest).map fun p => (.list p.1, p.2)
    | '\x7b' :: rest =>
      (readItems (readEntry (readValue n)) '\x7d' n rest).map fun p => (.object p.1, p.2)
    | _ => readNumber cs

/-- What a line says: one value, with nothing after it. -/
def read (line : String) : Option Value :=
  match readValue line.toList.length line.toList with
  | some (v, []) => some v
  | _ => none

/-! ## Texts -/

theorem baseDigit?_digitChar {d : Nat} (h : d < 16) :
    Numeric.baseDigit? 16 d.digitChar = some d := by
  revert d
  decide

theorem hexNumber_toDigits (n : Nat) : hexNumber (Nat.toDigits 16 n) = some n := by
  induction n using Nat.strongRecOn with
  | ind n ih =>
    by_cases hsmall : n < 16
    · rw [Nat.toDigits_of_lt_base hsmall]
      simp [hexNumber, baseDigit?_digitChar hsmall]
    · have hlast : n % 16 < 16 := Nat.mod_lt n (by decide)
      have hrest := ih (n / 16) (by omega)
      rw [Nat.toDigits_of_base_le (by decide) (by omega)]
      unfold hexNumber at hrest ⊢
      rw [List.foldlM_append, hrest]
      simp only [Option.bind_eq_bind, Option.bind_some, List.foldlM_cons, List.foldlM_nil,
        baseDigit?_digitChar hlast, Option.map_some, Option.pure_def, Option.some.injEq]
      omega

/-- Zeros in front do not count. -/
theorem hexNumber_zeros (k : Nat) (cs : List Char) :
    hexNumber (List.replicate k '0' ++ cs) = hexNumber cs := by
  have hzeros : (List.replicate k '0').foldlM
      (fun n c => (Numeric.baseDigit? 16 c).map (16 * n + ·)) 0 = some 0 := by
    induction k with
    | zero => rfl
    | succ k ih =>
      rw [List.replicate_succ, List.foldlM_cons]
      exact ih
  unfold hexNumber
  rw [List.foldlM_append, hzeros]
  rfl

/-- A unit takes four digits, and they give it back. -/
theorem hexNumber_hexDigits {unit : Nat} (h : unit < 0x10000) :
    ∃ a b c d, Text.hexDigits 4 unit = [a, b, c, d] ∧ hexNumber [a, b, c, d] = some unit := by
  have hlength : (Nat.toDigits 16 unit).length ≤ 4 :=
    (Nat.length_toDigits_le_iff (by decide) (by decide)).mpr (by omega)
  have hfour : (Text.hexDigits 4 unit).length = 4 := by
    simp only [Text.hexDigits, List.length_append, List.length_replicate]
    omega
  obtain ⟨a, b, c, d, hdigits⟩ : ∃ a b c d, Text.hexDigits 4 unit = [a, b, c, d] := by
    match hcs : Text.hexDigits 4 unit with
    | [a, b, c, d] => exact ⟨a, b, c, d, rfl⟩
    | [] | [_] | [_, _] | [_, _, _] | _ :: _ :: _ :: _ :: _ :: _ => simp [hcs] at hfour
  refine ⟨a, b, c, d, hdigits, ?_⟩
  rw [← hdigits, Text.hexDigits, hexNumber_zeros, hexNumber_toDigits]

/-- The units of a character. -/
def unitsOf (c : Char) : List Nat :=
  if c.toNat < 0x10000 then [c.toNat]
  else [0xD800 + (c.toNat - 0x10000) / 0x400, 0xDC00 + (c.toNat - 0x10000) % 0x400]

theorem joinUnits_unitsOf (c : Char) (units : List Nat) :
    joinUnits (unitsOf c ++ units) = c :: joinUnits units := by
  have hvalid : c.toNat < 0xD800 ∨ 0xDFFF < c.toNat ∧ c.toNat < 0x110000 := c.valid
  unfold unitsOf
  split
  · -- no character is itself half of one
    have hsingle : ¬(0xD800 ≤ c.toNat ∧ c.toNat < 0xDC00) := by omega
    cases units with
    | nil => simp [joinUnits]
    | cons low rest => simp [joinUnits, hsingle, ← and_assoc]
  · have hwhole : 0x10000 + (0xD800 + (c.toNat - 0x10000) / 0x400 - 0xD800) * 0x400 +
        (0xDC00 + (c.toNat - 0x10000) % 0x400 - 0xDC00) = c.toNat := by omega
    have hpair :
        0xD800 ≤ 0xD800 + (c.toNat - 0x10000) / 0x400 ∧
        0xD800 + (c.toNat - 0x10000) / 0x400 < 0xDC00 ∧
        0xDC00 ≤ 0xDC00 + (c.toNat - 0x10000) % 0x400 ∧
        0xDC00 + (c.toNat - 0x10000) % 0x400 < 0xE000 := by omega
    show joinUnits (_ :: _ :: units) = _
    rw [joinUnits, if_pos hpair, hwhole, Char.ofNat_toNat]

/-- Puts units before those that were read. -/
def before (units : List Nat) : Option (List Nat × List Char) → Option (List Nat × List Char) :=
  Option.map fun p => (units ++ p.1, p.2)

theorem readUnits_unitEscape {unit : Nat} (h : unit < 0x10000) (rest : List Char) :
    readUnits ((unitEscape unit).toList ++ rest) = before [unit] (readUnits rest) := by
  obtain ⟨a, b, c, d, hdigits, hnumber⟩ := hexNumber_hexDigits h
  have hescape : (unitEscape unit).toList ++ rest = '\\' :: 'u' :: a :: b :: c :: d :: rest := by
    simp [unitEscape, hdigits]
  rw [hescape, readUnits, hnumber]
  cases readUnits rest <;> rfl

/-- A character that can stand for itself does. -/
theorem readUnits_cons {c : Char} (hquote : c ≠ '"') (hslash : c ≠ '\\') (rest : List Char) :
    readUnits (c :: rest) = before [c.toNat] (readUnits rest) := by
  rw [readUnits]
  · cases readUnits rest <;> rfl
  all_goals simp_all

theorem readUnits_escape {c : Char} {unit : Nat} (h : escapedUnit c = some unit)
    (rest : List Char) :
    readUnits ('\\' :: c :: rest) = before [unit] (readUnits rest) := by
  rw [readUnits]
  · rw [h]
    cases readUnits rest <;> rfl
  · -- what begins with `u` has four digits after it
    rintro _ _ _ _ _ rfl
    cases h

theorem readUnits_character (c : Char) (rest : List Char) :
    readUnits ((character c).toList ++ rest) = before (unitsOf c) (readUnits rest) := by
  unfold character
  split
  · exact readUnits_escape rfl rest
  · exact readUnits_escape rfl rest
  · exact readUnits_escape rfl rest
  · exact readUnits_escape rfl rest
  · exact readUnits_escape rfl rest
  next hquote hslash _ _ _ =>
    have hvalid : c.toNat < 0xD800 ∨ 0xDFFF < c.toNat ∧ c.toNat < 0x110000 := c.valid
    dsimp only
    split
    · next h =>
      rw [unitsOf, h]
      exact readUnits_escape rfl rest
    split
    · next h =>
      rw [unitsOf, h]
      exact readUnits_escape rfl rest
    split
    · next h =>
      rw [Bool.and_eq_true, decide_eq_true_iff, decide_eq_true_iff] at h
      rw [unitsOf, if_pos (by omega), String.toList_singleton]
      exact readUnits_cons hquote hslash rest
    split
    · next h =>
      rw [unitsOf, if_pos h]
      exact readUnits_unitEscape h rest
    · next h =>
      rw [unitsOf, if_neg h, String.toList_append, List.append_assoc,
        readUnits_unitEscape (by omega), readUnits_unitEscape (by omega)]
      cases readUnits rest <;> rfl

theorem readUnits_flatMap (cs rest : List Char) :
    readUnits (cs.flatMap (fun c => (character c).toList) ++ '"' :: rest) =
      some (cs.flatMap unitsOf, rest) := by
  induction cs with
  | nil => rfl
  | cons c cs ih => rw [List.flatMap_cons, List.append_assoc, readUnits_character, ih]; rfl

theorem joinUnits_flatMap (cs : List Char) : joinUnits (cs.flatMap unitsOf) = cs := by
  induction cs with
  | nil => rfl
  | cons c cs ih => rw [List.flatMap_cons, joinUnits_unitsOf, ih]

/-- A text between its quotes. -/
theorem text_toList (s : String) :
    (text s).toList = '"' :: s.toList.flatMap (fun c => (character c).toList) ++ ['"'] := by
  have hwritten : ∀ (cs : List Char) (t : String),
      (cs.foldl (fun t c => t ++ character c) t).toList =
        t.toList ++ cs.flatMap (fun c => (character c).toList) := by
    intro cs
    induction cs with
    | nil => simp
    | cons c cs ih => simp [ih]
  simp [text, hwritten]

/-- **A text is read back as it was written**, and what follows it is left. -/
theorem readText_text (s : String) (rest : List Char) :
    readText ((text s).toList ++ rest) = some (s, rest) := by
  rw [text_toList, List.cons_append, List.cons_append, List.append_assoc, List.singleton_append,
    readText, readUnits_flatMap, Option.map_some, joinUnits_flatMap, String.ofList_toList]

/-! ## Values -/

/-- No number goes on here. -/
def Ends (rest : List Char) : Prop := ∀ c ∈ rest.head?, isNumeric c = false

/-- The reader finds an item in characters, and leaves what follows. -/
def Finds {α : Type} (item : List Char → Option (α × List Char)) (written : List Char) (a : α) :
    Prop :=
  ∀ rest, Ends rest → item (written ++ rest) = some (a, rest)

/-- Characters are read as a value, with a bound of as many as they are. -/
def Reads (written : List Char) (v : Value) : Prop :=
  ∀ n, written.length ≤ n → Finds (readValue n) written v

/-- Characters are a field of a mapping. -/
def Enters (written : List Char) (f : String × Value) : Prop :=
  ∃ value, written = (text f.1).toList ++ ':' :: ' ' :: value ∧ Reads value f.2

/-- Parts of a line with a comma and a blank between each two. -/
def listing (parts : List (List Char)) : List Char := [',', ' '].intercalate parts

theorem Reads.read {line : String} {v : Value} (h : Reads line.toList v) : read line = some v := by
  have hline := h line.toList.length (Nat.le_refl _) [] (by simp [Ends])
  rw [List.append_nil] at hline
  rw [Recording.read, hline]

theorem Reads.text (s : String) : Reads (text s).toList (.str s) := by
  intro n hn rest _
  cases n with
  | zero => simp [text_toList] at hn
  | succ n =>
    have htext := readText_text s rest
    rw [text_toList] at htext ⊢
    show (readText _).map _ = _
    rw [htext]
    rfl

/-- The characters of a number are read together. -/
theorem Reads.number {written : List Char} {v : Value}
    (hnumeric : written.all isNumeric = true) (hvalue : numberOf written = some v)
    (hsome : written ≠ []) : Reads written v := by
  rw [List.all_eq_true] at hnumeric
  intro n hn rest hrest
  have hspan : (written ++ rest).takeWhile isNumeric = written ∧
      (written ++ rest).dropWhile isNumeric = rest := by
    rw [List.takeWhile_append_of_pos hnumeric, List.dropWhile_append_of_pos hnumeric]
    cases rest with
    | nil => simp
    | cons c rest => simp [hrest c rfl]
  have hnumber : readNumber (written ++ rest) = some (v, rest) := by
    rw [readNumber, hspan.1, hspan.2, hvalue, Option.map_some]
  cases written with
  | nil => exact absurd rfl hsome
  | cons c written =>
    obtain ⟨n, rfl⟩ : ∃ m, n = m + 1 := ⟨n - 1, by simp at hn; omega⟩
    have hfirst := hnumeric c (by simp)
    rw [← hnumber]
    -- a numeric character begins nothing else
    show readValue (n + 1) (c :: (written ++ rest)) = readNumber (c :: (written ++ rest))
    rw [readValue]
    all_goals
      intro _ hsame
      obtain ⟨rfl, -⟩ := List.cons.inj hsame
      cases hfirst

theorem length_le_listing (parts : List (List Char)) :
    parts.length ≤ (listing parts).length + 1 ∧
      ∀ part ∈ parts, part.length ≤ (listing parts).length := by
  unfold listing
  induction parts with
  | nil => simp
  | cons part parts ih =>
    cases parts with
    | nil => simp
    | cons next parts =>
      obtain ⟨hcount, hlengths⟩ := ih
      rw [List.intercalate_cons_cons]
      simp only [List.length_append, List.length_cons, List.length_nil] at hcount ⊢
      refine ⟨by omega, ?_⟩
      intro other hother
      rcases List.mem_cons.mp hother with rfl | hother
      · omega
      · have := hlengths other hother
        omega

section Items

variable {α : Type} {item : List Char → Option (α × List Char)} {closing : Char}
  {parts : List (List Char)} {as : List α} {n : Nat}

theorem listing_cons_cons (part next : List Char) (parts : List (List Char)) :
    listing (part :: next :: parts) = part ++ ',' :: ' ' :: listing (next :: parts) := by
  simp [listing, List.intercalate_cons_cons]

theorem readSeries_listing (hclosing : isNumeric closing = false) (hcomma : closing ≠ ',')
    (hparts : List.Forall₂ (Finds item) parts as) (hsome : parts ≠ []) (hn : parts.length ≤ n)
    (rest : List Char) :
    readSeries item closing n (listing parts ++ closing :: rest) = some (as, rest) := by
  induction hparts generalizing n with
  | nil => exact absurd rfl hsome
  | @cons part a parts as hpart hparts ih =>
    obtain ⟨n, rfl⟩ : ∃ m, n = m + 1 := ⟨n - 1, by simp at hn; omega⟩
    cases hparts with
    | nil =>
      have hlast := hpart (closing :: rest) (by simpa [Ends] using hclosing)
      simp [listing, readSeries, hlast, hcomma]
    | @cons next b parts as hnext hparts =>
      have hlater := ih (by simp) (Nat.le_of_succ_le_succ hn)
      have hfirst :=
        hpart (',' :: ' ' :: (listing (next :: parts) ++ closing :: rest)) (by simp [Ends]; rfl)
      rw [listing_cons_cons, List.append_assoc, readSeries]
      simp only [List.cons_append, hfirst, hlater, Option.map_some]

/-- Items are found again if no item begins with the character that closes them. -/
theorem readItems_listing (hclosing : isNumeric closing = false) (hcomma : closing ≠ ',')
    (hnone : ∀ cs, item (closing :: cs) = none) (hparts : List.Forall₂ (Finds item) parts as)
    (hn : parts.length ≤ n) (rest : List Char) :
    readItems item closing n (listing parts ++ closing :: rest) = some (as, rest) := by
  cases hparts with
  | nil => simp [listing, readItems]
  | @cons part a parts as hpart hparts =>
    obtain ⟨later, hsplit, hends⟩ :
        ∃ later, listing (part :: parts) ++ closing :: rest = part ++ later ∧ Ends later := by
      cases parts with
      | nil => exact ⟨closing :: rest, by simp [listing], by simpa [Ends] using hclosing⟩
      | cons next parts =>
        refine ⟨',' :: ' ' :: listing (next :: parts) ++ closing :: rest, ?_, by simp [Ends]; rfl⟩
        rw [listing_cons_cons, List.append_assoc]
    have hfirst : (listing (part :: parts) ++ closing :: rest).head? ≠ some closing := by
      intro hhead
      obtain ⟨cs, hcs⟩ := List.head?_eq_some_iff.mp hhead
      have hitem := hpart later hends
      rw [← hsplit, hcs, hnone] at hitem
      cases hitem
    rw [readItems, if_neg hfirst]
    exact readSeries_listing hclosing hcomma (.cons hpart hparts) (by simp) hn rest

/-- A bound that the items together keep to is one for their number and for each of them. -/
theorem readItems_bounded {R : List Char → α → Prop} (hclosing : isNumeric closing = false)
    (hcomma : closing ≠ ',') (hnone : ∀ cs, item (closing :: cs) = none)
    (hitem : ∀ part a, R part a → part.length ≤ n → Finds item part a)
    (hparts : List.Forall₂ R parts as) (hn : (listing parts).length < n) (rest : List Char) :
    readItems item closing n (listing parts ++ closing :: rest) = some (as, rest) := by
  obtain ⟨hcount, hlengths⟩ := length_le_listing parts
  have hfound : List.Forall₂ (Finds item) parts as := by
    have hboth := (List.forall₂_and_left _ _).mpr ⟨hlengths, hparts⟩
    exact hboth.imp fun part a hpart => hitem part a hpart.2 (by omega)
  exact readItems_listing hclosing hcomma hnone hfound (by omega) rest

end Items

theorem Reads.list {parts : List (List Char)} {items : List Value}
    (h : List.Forall₂ Reads parts items) :
    Reads ('[' :: listing parts ++ [']']) (.list items) := by
  intro n hn rest _
  simp only [List.cons_append, List.length_cons, List.length_append, List.length_nil] at hn
  obtain ⟨n, rfl⟩ : ∃ m, n = m + 1 := ⟨n - 1, by omega⟩
  have hnone : ∀ cs, readValue n (']' :: cs) = none := by
    intro cs
    cases n <;> rfl
  have hitems : readItems (readValue n) ']' n (listing parts ++ ']' :: rest) = some (items, rest) :=
    readItems_bounded rfl (by decide) hnone (fun _ _ hpart => hpart n) h (by omega) rest
  show readValue (n + 1) ('[' :: (listing parts ++ [']'] ++ rest)) = _
  rw [readValue, List.append_assoc, List.singleton_append, hitems]
  rfl

theorem Enters.finds {written : List Char} {f : String × Value} (h : Enters written f) {n : Nat}
    (hn : written.length ≤ n) : Finds (readEntry (readValue n)) written (.str f.1, f.2) := by
  obtain ⟨value, rfl, hvalue⟩ := h
  intro rest hrest
  simp only [List.length_append, List.length_cons] at hn
  have hread := hvalue n (by omega) rest hrest
  rw [List.append_assoc, readEntry, readText_text]
  simp only [List.cons_append, hread, Option.map_some]

theorem Reads.record {parts : List (List Char)} {fields : List (String × Value)}
    (h : List.Forall₂ Enters parts fields) :
    Reads ('\x7b' :: listing parts ++ ['\x7d']) (.record fields) := by
  intro n hn rest _
  simp only [List.cons_append, List.length_cons, List.length_append, List.length_nil] at hn
  obtain ⟨n, rfl⟩ : ∃ m, n = m + 1 := ⟨n - 1, by omega⟩
  have hparts : List.Forall₂ (fun part e => ∃ f, Enters part f ∧ e = (Key.str f.1, f.2)) parts
      (fields.map fun f => (.str f.1, f.2)) := by
    rw [List.forall₂_map_right_iff]
    exact h.imp fun part f hpart => ⟨f, hpart, rfl⟩
  have hitems : readItems (readEntry (readValue n)) '\x7d' n (listing parts ++ '\x7d' :: rest) =
      some (fields.map fun f => (.str f.1, f.2), rest) := by
    refine readItems_bounded rfl (by decide) (fun _ => rfl) ?_ hparts (by omega) rest
    rintro part e ⟨f, hpart, rfl⟩ hlength
    exact hpart.finds hlength
  show readValue (n + 1) ('\x7b' :: (listing parts ++ ['\x7d'] ++ rest)) = _
  rw [readValue, List.append_assoc, List.singleton_append, hitems]
  rfl

/-! ## What was written -/

/-- What recorders are given of rounds and collisions: texts, integers, lists and fields. -/
inductive Plain : Value → Prop
  | int (n : Int) : Plain (.int n)
  | str (s : String) : Plain (.str s)
  | list {items : List Value} (h : ∀ v ∈ items, Plain v) : Plain (.list items)
  | record {fields : List (String × Value)} (h : ∀ f ∈ fields, Plain f.2) : Plain (.record fields)

attribute [simp] Plain.int Plain.str

theorem isDigit_of_toDigits (n : Nat) : (Nat.toDigits 10 n).all Char.isDigit = true :=
  List.all_eq_true.mpr fun _ hc => Nat.isDigit_of_mem_toDigits (by decide) (by decide) hc

theorem isNumeric_of_isDigit {cs : List Char} (h : cs.all Char.isDigit = true) :
    cs.all isNumeric = true := by
  rw [List.all_eq_true] at h ⊢
  intro c hc
  simp [isNumeric, h c hc]

/-- Digits are read as the integer that they are of. -/
theorem Reads.nat (n : Nat) : Reads (Nat.toDigits 10 n) (.int n) := by
  have hdigits := isDigit_of_toDigits n
  have hunsigned : (Nat.toDigits 10 n).head? ≠ some '-' := fun hhead =>
    absurd (List.all_eq_true.mp hdigits '-' (List.mem_of_mem_head? hhead)) (by decide)
  refine .number (isNumeric_of_isDigit hdigits) ?_ Nat.toDigits_ne_nil
  simp only [numberOf, hunsigned, if_false, hdigits,
    List.isEmpty_eq_false_iff.mpr Nat.toDigits_ne_nil, Bool.not_true, Bool.or_self,
    Bool.false_eq_true, Nat.ofDigitChars_ten_toDigits]

theorem Reads.int (n : Int) : Reads (Numeric.integerText n).toList (.int n) := by
  unfold Numeric.integerText Numeric.digitsOf
  have hdigits := isDigit_of_toDigits n.natAbs
  split
  · next hneg =>
    have hvalue : -(n.natAbs : Int) = n := by omega
    rw [String.toList_ofList]
    refine .number ?_ ?_ (List.cons_ne_nil _ _)
    · rw [List.all_cons, isNumeric_of_isDigit hdigits]
      rfl
    · simp only [numberOf, List.head?_cons, if_true, List.tail_cons, hdigits,
        List.isEmpty_eq_false_iff.mpr Nat.toDigits_ne_nil, Bool.not_true, Bool.or_self,
        Bool.false_eq_true, if_false, Nat.ofDigitChars_ten_toDigits, hvalue]
  · next hpos =>
    have hvalue : (n.natAbs : Int) = n := by omega
    rw [String.toList_ofList]
    simpa only [hvalue] using Reads.nat n.natAbs

theorem toList_listing (parts : List String) :
    (", ".intercalate parts).toList = listing (parts.map String.toList) := String.toList_intercalate

theorem values_reads {items : List Value}
    (hitems : ∀ v ∈ items, ∀ l, value v = .ok l → Reads l.toList v) {parts : List String}
    (h : values items = .ok parts) :
    List.Forall₂ Reads (parts.map String.toList) items := by
  induction items generalizing parts with
  | nil =>
    obtain rfl := Except.ok.inj h
    exact .nil
  | cons v items ih =>
    rw [values] at h
    cases hv : value v with
    | error fault => rw [hv] at h; cases h
    | ok l =>
      cases hrest : values items with
      | error fault => rw [hv, hrest] at h; cases h
      | ok rest =>
        rw [hv, hrest] at h
        obtain rfl := Except.ok.inj h
        exact .cons (hitems v (by simp) l hv) (ih (fun v hv => hitems v (by simp [hv])) hrest)

theorem entries_reads {fields : List (String × Value)}
    (hfields : ∀ f ∈ fields, ∀ l, value f.2 = .ok l → Reads l.toList f.2) {parts : List String}
    (h : entries (fields.map fun f => (.str f.1, f.2)) = .ok parts) :
    List.Forall₂ Enters (parts.map String.toList) fields := by
  induction fields generalizing parts with
  | nil =>
    obtain rfl := Except.ok.inj h
    exact .nil
  | cons f fields ih =>
    rw [List.map_cons, entries, key] at h
    cases hv : value f.2 with
    | error fault => rw [hv] at h; cases h
    | ok l =>
      cases hrest : entries (fields.map fun f => (.str f.1, f.2)) with
      | error fault => rw [hv, hrest] at h; cases h
      | ok rest =>
        rw [hv, hrest] at h
        obtain rfl := Except.ok.inj h
        refine .cons ⟨l.toList, ?_, hfields f (by simp) l hv⟩
          (ih (fun f hf => hfields f (by simp [hf])) hrest)
        simp

theorem Plain.reads {v : Value} (h : Plain v) {l : String} (hl : value v = .ok l) :
    Reads l.toList v := by
  induction h generalizing l with
  | int n =>
    rw [value, integerText] at hl
    split at hl
    · obtain rfl := Except.ok.inj hl
      exact .int n
    · cases hl
  | str s =>
    obtain rfl := Except.ok.inj hl
    exact .text s
  | @list items _ ih =>
    rw [value] at hl
    cases hitems : values items with
    | error fault => rw [hitems] at hl; cases hl
    | ok parts =>
      rw [hitems] at hl
      obtain rfl := Except.ok.inj hl
      rw [String.toList_append, String.toList_append, toList_listing]
      exact .list (values_reads (fun v hv _ => ih v hv) hitems)
  | @record fields _ ih =>
    rw [Value.record, value] at hl
    cases hfields : entries (fields.map fun f => (.str f.1, f.2)) with
    | error fault => rw [hfields] at hl; cases hl
    | ok parts =>
      rw [hfields] at hl
      obtain rfl := Except.ok.inj hl
      rw [String.toList_append, String.toList_append, toList_listing]
      exact .record (entries_reads (fun f hf _ => ih f hf) hfields)

/-- **A value that was written is read back.** -/
theorem Plain.read {v : Value} (h : Plain v) {l : String} (hl : value v = .ok l) :
    Recording.read l = some v :=
  (h.reads hl).read

end Recording

/-! ## The lines of a recorder -/

namespace Recorder

open Recording

theorem read_opening :
    ∃ started, Recording.read opening =
      some (.record [("type", .str "run"), ("started", .float started)]) :=
  ⟨_, rfl⟩

theorem zero_reads : ∃ x, Reads ['0', '.', '0'] (.float x) := by
  obtain ⟨x, hx⟩ : ∃ x, Numeric.readFloatChars ['0', '.', '0'] = some x := ⟨_, rfl⟩
  refine ⟨x, .number rfl ?_ (List.cons_ne_nil _ _)⟩
  simp [numberOf, hx]

/-- The counts of a summary. -/
theorem counts_read (counts : Assoc Nat) :
    List.Forall₂ Enters (counts.map fun c => (text c.1 ++ ": " ++ toString c.2).toList)
      (counts.map fun c => (c.1, .int c.2)) := by
  rw [List.forall₂_map_left_iff, List.forall₂_map_right_iff, List.forall₂_same]
  intro c _
  exact ⟨Nat.toDigits 10 c.2, by simp, .nat c.2⟩

theorem summary_toList (counts : Assoc Nat) :
    (summary counts).toList =
      '\x7b' :: listing
        [(text "type").toList ++ ':' :: ' ' :: (text "summary").toList,
         (text "ended").toList ++ ':' :: ' ' :: ['0', '.', '0'],
         (text "counts").toList ++ ':' :: ' ' :: ('\x7b' ::
           listing (counts.map fun c => (text c.1 ++ ": " ++ toString c.2).toList) ++ ['\x7d'])] ++
             ['\x7d'] := by
  have htype : text "type" = "\"type\"" := by decide
  have hsummary : text "summary" = "\"summary\"" := by decide
  have hended : text "ended" = "\"ended\"" := by decide
  have hcounts : text "counts" = "\"counts\"" := by decide
  unfold summary
  simp [htype, hsummary, hended, hcounts, listing, Function.comp_def]

/-- The summary names every source with the number of its records. -/
theorem read_summary (counts : Assoc Nat) :
    ∃ ended, Recording.read (summary counts) =
      some (.record [("type", .str "summary"), ("ended", .float ended),
        ("counts", .record (counts.map fun c => (c.1, .int c.2)))]) := by
  obtain ⟨ended, hended⟩ := zero_reads
  refine ⟨ended, Reads.read ?_⟩
  rw [summary_toList]
  exact .record (.cons ⟨_, rfl, .text "summary"⟩ (.cons ⟨_, rfl, hended⟩
    (.cons ⟨_, rfl, .record (counts_read counts)⟩ .nil)))

end Recorder

end ScriptedStage
