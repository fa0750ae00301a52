import BuildOperator.Json.Reader
import BuildOperator.Json.Writer
import BuildOperator.Proofs.TimestampText
/-!
# Texts of JSON values read back

The text that is written of a value has the form of that value: strings end at the quote that closes
them, numerals where something else begins, and arrays and objects at their brackets. A whole number
is read as it was written; of a decimal this is asked.
-/
namespace BuildOperator.Json

theorem skipSpace_cons {c : Char} (h : isSpace c = false) (cs : List Char) :
    skipSpace (c :: cs) = c :: cs := by
  simp [skipSpace, h]

/-- The letter by which a character of a string is written. -/
def letterOf (c : Char) : Letter :=
  if c.toNat < 0x20 ∧ c ∉ ['\x08', '\x0c', '\n', '\r', '\t'] then .code c.toNat else .char c

def letters (s : String) : List Letter := s.toList.map letterOf

theorem readHex4?_hex4 {n : Nat} (h : n < 0x20) (rest : List Char) :
    readHex4? (hex4 n ++ rest) = some (n, rest) := by
  have hall : ∀ n < 0x20, hex4 n = ['0', '0', Nat.digitChar (n / 16), Nat.digitChar (n % 16)] ∧
      Text.hexDigit? (Nat.digitChar (n / 16)) = some (n / 16) ∧
      Text.hexDigit? (Nat.digitChar (n % 16)) = some (n % 16) := by decide
  obtain ⟨hdigits, hhigh, hlow⟩ := hall n h
  have hzero : Text.hexDigit? '0' = some 0 := by decide
  have hn : ((0 * 16 + 0) * 16 + n / 16) * 16 + n % 16 = n := by omega
  simp only [hdigits, List.cons_append, List.nil_append, readHex4?, hzero, hhigh, hlow,
    Option.bind_eq_bind, Option.bind_some, hn]
  rfl

theorem readLetters?_escape (fuel : Nat) (c : Char) (rest : List Char) (done : List Letter) :
    readLetters? (fuel + 1) (escape c ++ rest) done =
      readLetters? fuel rest (letterOf c :: done) := by
  unfold escape
  split
  iterate 7 rfl
  next hquote hslash hb hf hn hr ht =>
    split
    · next hlow =>
      have hl : letterOf c = .code c.toNat := by simp_all [letterOf]
      rw [hl, List.append_assoc]
      simp only [List.cons_append, List.nil_append, readLetters?, readHex4?_hex4 hlow]
      rfl
    · next hhigh =>
      have hl : letterOf c = .char c := by simp [letterOf, hhigh]
      rw [hl, List.singleton_append, readLetters?, if_neg hhigh]
      · exact hquote
      · exact fun _ hc _ => hslash hc
      · exact fun _ _ hc _ => hslash hc

theorem readLetters?_letters {fuel : Nat} {cs : List Char} (h : cs.length < fuel)
    (rest : List Char) (done : List Letter) :
    readLetters? fuel (cs.flatMap escape ++ '"' :: rest) done =
      some (done.reverse ++ cs.map letterOf, rest) := by
  induction cs generalizing fuel done with
  | nil =>
    obtain ⟨n, rfl⟩ : ∃ n, fuel = n + 1 := ⟨fuel - 1, by omega⟩
    simp [readLetters?]
  | cons c cs ih =>
    obtain ⟨n, rfl⟩ : ∃ n, fuel = n + 1 := ⟨fuel - 1, by omega⟩
    rw [List.flatMap_cons, List.append_assoc, readLetters?_escape, ih (by simpa using h)]
    simp

theorem readLetters?_string (s : String) (rest : List Char) :
    readLetters? ((s.toList.flatMap escape ++ '"' :: rest).length + 1)
      (s.toList.flatMap escape ++ '"' :: rest) [] = some (letters s, rest) := by
  have hescape (c : Char) : 1 ≤ (escape c).length := by
    unfold escape
    split
    iterate 7 simp
    split <;> simp
  have hlength (cs : List Char) : cs.length ≤ (cs.flatMap escape).length := by
    induction cs with
    | nil => simp
    | cons c cs ih =>
      have hc := hescape c
      simp only [List.length_cons, List.flatMap_cons, List.length_append]
      omega
  have hs := hlength s.toList
  rw [readLetters?_letters (by simp only [List.length_append]; omega)]
  rfl

theorem toList_textOfString (s : String) :
    (textOfString s).toList = '"' :: s.toList.flatMap escape ++ ['"'] := by
  simp [textOfString]

/-- What may come after a value: nothing, a comma or a bracket that closes. -/
def Closes (rest : List Char) : Prop := ∀ c ∈ rest.head?, c ∈ [',', ']', '\x7d']

theorem closes_nil : Closes [] := by simp [Closes]

theorem closes_cons {c : Char} (h : c ∈ [',', ']', '\x7d']) (rest : List Char) :
    Closes (c :: rest) := by
  simpa [Closes] using h

theorem Closes.halts {rest : List Char} (h : Closes rest) : Timestamp.Halts rest := by
  have hall : [',', ']', '\x7d'].all (fun c => !c.isDigit) = true := by decide
  intro c hc
  simpa using List.all_eq_true.mp hall c (h c hc)

theorem readDigits?_append {digits rest : List Char} (hne : digits ≠ [])
    (hd : ∀ c ∈ digits, c.isDigit = true) (hr : Timestamp.Halts rest) :
    readDigits? (digits ++ rest) = some (digits, rest) := by
  have htake : rest.takeWhile Char.isDigit = [] := by
    cases rest with
    | nil => rfl
    | cons c rest => simp [hr c rfl]
  have hdrop : rest.dropWhile Char.isDigit = rest := by
    cases rest with
    | nil => rfl
    | cons c rest => simp [hr c rfl]
  unfold readDigits?
  rw [List.takeWhile_append_of_pos hd, List.dropWhile_append_of_pos hd, htake, hdrop,
    List.append_nil]
  split
  · contradiction
  · rfl

theorem eq_zero_of_head?_toDigits {n : Nat} (h : (Nat.toDigits 10 n).head? = some '0') : n = 0 := by
  induction n using Nat.strongRecOn with
  | _ n ih =>
    rw [Nat.toDigits_eq_if (by decide)] at h
    split at h
    · next hn =>
      have hall : ∀ n < 10, Nat.digitChar n = '0' → n = 0 := by decide
      exact hall n hn (by simpa using h)
    · next hn =>
      obtain ⟨c, cs, hc⟩ := List.exists_cons_of_ne_nil (Nat.toDigits_ne_nil (n := n / 10))
      rw [hc] at h
      have hz := ih (n / 10) (by omega) (hc ▸ h)
      omega

theorem readWhole?_toDigits (n : Nat) :
    readWhole? (Nat.toDigits 10 n) = some (Nat.toDigits 10 n, []) := by
  have hd : ∀ c ∈ Nat.toDigits 10 n, c.isDigit = true :=
    fun c hc => Nat.isDigit_of_mem_toDigits (by decide) (by decide) hc
  have hlead : ¬ ((Nat.toDigits 10 n).head? = some '0' ∧ 1 < (Nat.toDigits 10 n).length) := by
    rintro ⟨hz, hl⟩
    rw [eq_zero_of_head?_toDigits hz] at hl
    exact absurd hl (by decide)
  have hdigits := readDigits?_append Nat.toDigits_ne_nil hd closes_nil.halts
  rw [List.append_nil] at hdigits
  simp only [readWhole?, hdigits, Option.bind_eq_bind, Option.bind_some, if_neg hlead]
  rfl

/-- The numeral by which a whole number is written. -/
def numeral (n : Int) : Numeral := ⟨n < 0, Nat.toDigits 10 n.natAbs, none, none⟩

theorem toList_toString (n : Int) :
    (toString n).toList = (if n < 0 then ['-'] else []) ++ Nat.toDigits 10 n.natAbs := by
  cases n with
  | ofNat n => simp [toString, Int.repr, Nat.toList_repr]
  | negSucc n => simp [toString, Int.repr, Nat.toList_repr, Int.negSucc_lt_zero]

theorem Closes.ne {c : Char} {rest : List Char} (h : Closes rest) (hc : c ∈ rest.head?) :
    c ≠ '.' ∧ c ≠ 'e' ∧ c ≠ 'E' := by
  have hall : [',', ']', '\x7d'].all (fun c => c ≠ '.' ∧ c ≠ 'e' ∧ c ≠ 'E') = true := by decide
  simpa using List.all_eq_true.mp hall c (h c hc)

theorem readFraction?_of_ne {cs : List Char} (h : ∀ c ∈ cs.head?, c ≠ '.') :
    readFraction? cs = some (none, cs) := by
  cases cs with
  | nil => rfl
  | cons c cs => simp [readFraction?, h c rfl]

theorem readExponent?_of_ne {cs : List Char} (h : ∀ c ∈ cs.head?, c ≠ 'e' ∧ c ≠ 'E') :
    readExponent? cs = some (none, cs) := by
  cases cs with
  | nil => rfl
  | cons c cs => simp [readExponent?, h c rfl]

theorem readNumeral?_toString (n : Int) :
    readNumeral? (toString n).toList = some (numeral n, []) := by
  have hwhole := readWhole?_toDigits n.natAbs
  have hminus : readMinus (toString n).toList = (decide (n < 0), Nat.toDigits 10 n.natAbs) := by
    rw [toList_toString]
    by_cases hn : n < 0
    · simp [readMinus, hn]
    · obtain ⟨c, cs, hc⟩ := List.exists_cons_of_ne_nil (Nat.toDigits_ne_nil (n := n.natAbs))
      have hmem : c ∈ Nat.toDigits 10 n.natAbs := hc ▸ List.mem_cons_self
      have hd : c.isDigit = true := Nat.isDigit_of_mem_toDigits (by decide) (by decide) hmem
      have hne : c ≠ '-' := fun he => absurd (he ▸ hd) (by decide)
      simp [readMinus, hn, hc, hne]
  simp only [readNumeral?, hminus, hwhole, Option.bind_eq_bind, Option.bind_some]
  rfl

theorem readDigits?_append_closes {cs digits tail rest : List Char}
    (h : readDigits? cs = some (digits, tail)) (hr : Closes rest) :
    readDigits? (cs ++ rest) = some (digits, tail ++ rest) := by
  unfold readDigits? at h
  split at h
  · cases h
  · next hne =>
    obtain ⟨rfl, rfl⟩ := Prod.mk.inj (Option.some.inj h)
    have hd : ∀ c ∈ cs.takeWhile Char.isDigit, c.isDigit = true :=
      List.all_eq_true.mp List.all_takeWhile
    have hhalts : Timestamp.Halts (cs.dropWhile Char.isDigit ++ rest) := by
      intro c hc
      have hnot := List.head?_dropWhile_not Char.isDigit cs
      cases he : cs.dropWhile Char.isDigit with
      | nil => exact hr.halts c (by simpa [he] using hc)
      | cons d ds =>
        obtain rfl : d = c := by simpa [he] using hc
        simpa [he] using hnot
    rw [← readDigits?_append hne hd hhalts, ← List.append_assoc, List.takeWhile_append_dropWhile]

theorem readWhole?_append_closes {cs digits tail rest : List Char}
    (h : readWhole? cs = some (digits, tail)) (hr : Closes rest) :
    readWhole? (cs ++ rest) = some (digits, tail ++ rest) := by
  obtain ⟨⟨ds, t⟩, hd, h⟩ := Option.bind_eq_some_iff.mp h
  dsimp only at h
  split at h
  · cases h
  · next hz =>
    obtain ⟨rfl, rfl⟩ := Prod.mk.inj (Option.some.inj h)
    simp only [readWhole?, readDigits?_append_closes hd hr, Option.bind_eq_bind, Option.bind_some,
      if_neg hz]
    rfl

theorem readFraction?_append_closes {cs tail rest : List Char} {fraction : Option (List Char)}
    (h : readFraction? cs = some (fraction, tail)) (hr : Closes rest) :
    readFraction? (cs ++ rest) = some (fraction, tail ++ rest) := by
  cases cs with
  | nil =>
    obtain ⟨rfl, rfl⟩ := Prod.mk.inj (Option.some.inj h)
    exact readFraction?_of_ne fun c hc => (hr.ne hc).1
  | cons c cs =>
    by_cases hc : c = '.'
    · subst hc
      obtain ⟨⟨ds, t⟩, hd, h⟩ := Option.bind_eq_some_iff.mp h
      obtain ⟨rfl, rfl⟩ := Prod.mk.inj (Option.some.inj h)
      simp only [readFraction?, List.cons_append, readDigits?_append_closes hd hr,
        Option.bind_eq_bind, Option.bind_some]
      rfl
    · rw [readFraction?_of_ne (by simpa using hc)] at h
      obtain ⟨rfl, rfl⟩ := Prod.mk.inj (Option.some.inj h)
      exact readFraction?_of_ne (by simpa using hc)

theorem readMinus_cons_append (c : Char) (cs rest : List Char) :
    readMinus (c :: cs ++ rest) = ((readMinus (c :: cs)).1, (readMinus (c :: cs)).2 ++ rest) := by
  by_cases hc : c = '-'
  · subst hc
    rfl
  · simp [readMinus, hc]

theorem readSign_cons_append (c : Char) (cs rest : List Char) :
    readSign (c :: cs ++ rest) = ((readSign (c :: cs)).1, (readSign (c :: cs)).2 ++ rest) := by
  by_cases hc : c = '+'
  · subst hc
    rfl
  · have hminus := readMinus_cons_append c cs rest
    simpa [readSign, hc] using hminus

theorem readExponent?_append_closes {cs tail rest : List Char} {exponent : Option Int}
    (h : readExponent? cs = some (exponent, tail)) (hr : Closes rest) :
    readExponent? (cs ++ rest) = some (exponent, tail ++ rest) := by
  cases cs with
  | nil =>
    obtain ⟨rfl, rfl⟩ := Prod.mk.inj (Option.some.inj h)
    exact readExponent?_of_ne fun c hc => (hr.ne hc).2
  | cons c cs =>
    by_cases hc : c = 'e' ∨ c = 'E'
    · have hb : (c == 'e' || c == 'E') = true := by simpa using hc
      simp only [List.cons_append, readExponent?, hb, if_true] at h ⊢
      obtain ⟨⟨ds, t⟩, hd, h⟩ := Option.bind_eq_some_iff.mp h
      obtain ⟨rfl, rfl⟩ := Prod.mk.inj (Option.some.inj h)
      cases cs with
      | nil => cases hd
      | cons sign cs =>
        simp only [readSign_cons_append, readDigits?_append_closes hd hr, Option.bind_eq_bind,
          Option.bind_some]
        rfl
    · rw [readExponent?_of_ne (by simpa using hc)] at h
      obtain ⟨rfl, rfl⟩ := Prod.mk.inj (Option.some.inj h)
      exact readExponent?_of_ne (by simpa using hc)

/-- A numeral that was read is read also where a value ends after it. -/
theorem readNumeral?_append_closes {cs tail rest : List Char} {n : Numeral}
    (h : readNumeral? cs = some (n, tail)) (hr : Closes rest) :
    readNumeral? (cs ++ rest) = some (n, tail ++ rest) := by
  simp only [readNumeral?, Option.bind_eq_bind] at h
  obtain ⟨⟨whole, cs₁⟩, hw, h⟩ := Option.bind_eq_some_iff.mp h
  obtain ⟨⟨fraction, cs₂⟩, hf, h⟩ := Option.bind_eq_some_iff.mp h
  obtain ⟨⟨exponent, cs₃⟩, he, h⟩ := Option.bind_eq_some_iff.mp h
  obtain ⟨rfl, rfl⟩ := Prod.mk.inj (Option.some.inj h)
  cases cs with
  | nil => cases hw
  | cons c cs =>
    simp only [readNumeral?, readMinus_cons_append, readWhole?_append_closes hw hr,
      readFraction?_append_closes hf hr, readExponent?_append_closes he hr, Option.bind_eq_bind,
      Option.bind_some]
    rfl

theorem exists_eq_cons_of_readNumeral? {cs tail : List Char} {n : Numeral}
    (h : readNumeral? cs = some (n, tail)) :
    ∃ c cs', cs = c :: cs' ∧ (c.isDigit = true ∨ c = '-') := by
  simp only [readNumeral?, Option.bind_eq_bind] at h
  obtain ⟨_, hw, -⟩ := Option.bind_eq_some_iff.mp h
  cases cs with
  | nil => cases hw
  | cons c cs =>
    refine ⟨c, cs, rfl, ?_⟩
    by_cases hc : c = '-'
    · exact Or.inr hc
    · obtain ⟨_, hd, -⟩ := Option.bind_eq_some_iff.mp hw
      by_cases hdigit : c.isDigit = true
      · exact Or.inl hdigit
      · simp [readMinus, hc, readDigits?, hdigit] at hd

/-- The numeral that a text writes, if it writes nothing else. -/
def Numeral.ofText? (s : String) : Option Numeral :=
  match readNumeral? s.toList with
  | some (n, []) => some n
  | _ => none

theorem Numeral.readNumeral?_of_ofText? {s : String} {n : Numeral} (h : ofText? s = some n) :
    readNumeral? s.toList = some (n, []) := by
  unfold ofText? at h
  split at h
  · next hr => rw [hr, Option.some.inj h]
  · cases h

mutual
/-- The form in which a value is written. -/
def form : Json → Form
  | .null => .null
  | .bool b => .bool b
  | .number (.decimal d) => ((Numeral.ofText? d.text).map Form.number).getD .null
  | .number (.integer n) => .number (numeral n)
  | .string s => .string (letters s)
  | .array items => .array (formItems items)
  | .object members => .object (formMembers members)

def formItems : List Json → List Form
  | [] => []
  | x :: xs => form x :: formItems xs

def formMembers : List (String × Json) → List (List Letter × Form)
  | [] => []
  | (k, x) :: xs => (letters k, form x) :: formMembers xs
end

theorem form_decimal {d : Decimal} {n : Numeral} (h : Numeral.ofText? d.text = some n) :
    form (.number (.decimal d)) = .number n := by
  simp [form, h]

/-- The characters of the text of a value. -/
def chars (x : Json) : List Char := x.text.toList

def memberChars (m : String × Json) : List Char := (textOfString m.1).toList ++ ':' :: m.2.chars

theorem chars_array (items : List Json) :
    chars (.array items) = '[' :: ([','].intercalate (items.map chars) ++ [']']) := by
  have hitems : (textOfItems items).map String.toList = items.map chars := by
    induction items with
    | nil => rfl
    | cons x xs ih => simp [textOfItems, chars, ih]
  simp [chars, text, String.toList_intercalate, hitems]

theorem chars_object (members : List (String × Json)) : chars (.object members) =
    '\x7b' :: ([','].intercalate (members.map memberChars) ++ ['\x7d']) := by
  have hmembers : (textOfMembers members).map String.toList = members.map memberChars := by
    induction members with
    | nil => rfl
    | cons m ms ih => simp [textOfMembers, memberChars, chars, ih]
  simp [chars, text, String.toList_intercalate, hmembers]

/-- Values nested no deeper than this, with whole numbers of 64 bits and decimals that are what
their text is read as; `order` holds of the names of any two members of an object, in that
order. -/
inductive Shaped (order : String → String → Prop) : Nat → Json → Prop where
  | null {depth : Nat} : Shaped order depth .null
  | bool {depth : Nat} (b : Bool) : Shaped order depth (.bool b)
  | integer {depth : Nat} {n : Int} (hlow : -9223372036854775808 ≤ n)
      (hhigh : n < 18446744073709551616) : Shaped order depth (.ofInt n)
  | decimal {depth : Nat} {d : Decimal} {n : Numeral} (hn : Numeral.ofText? d.text = some n)
      (hv : n.value? = some (.decimal d)) : Shaped order depth (.number (.decimal d))
  | string {depth : Nat} (s : String) : Shaped order depth (.string s)
  | array {depth : Nat} {items : List Json} (h : ∀ x ∈ items, Shaped order depth x) :
      Shaped order (depth + 1) (.array items)
  | object {depth : Nat} {members : List (String × Json)}
      (hk : members.Pairwise fun a b => order a.1 b.1) (h : ∀ m ∈ members, Shaped order depth m.2) :
      Shaped order (depth + 1) (.object members)

/-- No name is written twice. -/
abbrev Plain : Nat → Json → Prop := Shaped (· ≠ ·)

/-- The members of objects are in key order. -/
abbrev Ordered : Nat → Json → Prop := Shaped (· < ·)

section
variable {order : String → String → Prop} {depth : Nat} {x : Json}

/-- The text of the value is read, whatever comes after it. -/
def ReadsBack (x : Json) : Prop := ∀ (fuel : Nat) (rest : List Char), x.chars.length < fuel →
  Closes rest → readForm? fuel (x.chars ++ rest) = some (x.form, rest)

/-- Digits and a sign are none of the characters at which other values begin. -/
theorem numeral_start {c : Char} (h : c.isDigit = true ∨ c = '-') :
    c ∉ ['"', '[', ']', '\x7b', 'n', 't', 'f', ' ', '\t', '\n', '\r'] := by
  have hall : ['"', '[', ']', '\x7b', 'n', 't', 'f', ' ', '\t', '\n', '\r'].all
      (fun c => !c.isDigit && c != '-') = true := by decide
  intro hc
  have hne := List.all_eq_true.mp hall c hc
  simp only [Bool.and_eq_true, Bool.not_eq_true', bne_iff_ne] at hne
  rcases h with h | h
  · exact absurd h (by simp [hne.1])
  · exact hne.2 h

theorem exists_chars_eq_cons_of_numeral {n : Numeral} (h : readNumeral? x.chars = some (n, [])) :
    ∃ c cs, x.chars = c :: cs ∧ isSpace c = false ∧ c ≠ ']' := by
  obtain ⟨c, cs, hc, hstart⟩ := exists_eq_cons_of_readNumeral? h
  have hne := numeral_start hstart
  simp only [List.mem_cons, List.not_mem_nil, or_false, not_or] at hne
  exact ⟨c, cs, hc, by simp [isSpace, hne], by simp [hne]⟩

/-- A value begins with a character that is neither blank nor the end of an array. -/
theorem Shaped.exists_chars_eq_cons (h : Shaped order depth x) :
    ∃ c cs, x.chars = c :: cs ∧ isSpace c = false ∧ c ≠ ']' := by
  cases h with
  | null => exact ⟨'n', ['u', 'l', 'l'], rfl, by decide⟩
  | bool b =>
    cases b with
    | true => exact ⟨'t', ['r', 'u', 'e'], rfl, by decide⟩
    | false => exact ⟨'f', ['a', 'l', 's', 'e'], rfl, by decide⟩
  | integer => exact exists_chars_eq_cons_of_numeral (readNumeral?_toString _)
  | decimal hn _ => exact exists_chars_eq_cons_of_numeral (Numeral.readNumeral?_of_ofText? hn)
  | string s => exact ⟨'"', _, toList_textOfString s, by decide⟩
  | array => exact ⟨'[', _, chars_array _, by decide⟩
  | object => exact ⟨'\x7b', _, chars_object _, by decide⟩

theorem readForm?_numeral (fuel : Nat) {c : Char} (hc : c.isDigit = true ∨ c = '-')
    (cs : List Char) : readForm? (fuel + 1) (c :: cs) =
      (readNumeral? (c :: cs)).map fun p => (.number p.1, p.2) := by
  have hne := numeral_start hc
  simp only [List.mem_cons, List.not_mem_nil, or_false, not_or] at hne
  have hskip : skipSpace (c :: cs) = c :: cs := skipSpace_cons (by simp [isSpace, hne]) cs
  unfold readForm?
  rw [hskip]
  split
  case h_7 => exact Option.map_eq_bind.symm
  -- Every other case has another character in the place of the digit or sign.
  all_goals simp_all

theorem readItems?_chars {items : List Json} (hne : items ≠ []) (h : ∀ x ∈ items, ReadsBack x)
    {fuel : Nat} (rest : List Char)
    (hl : ([','].intercalate (items.map chars)).length + 1 < fuel) :
    readItems? fuel ([','].intercalate (items.map chars) ++ ']' :: rest) =
      some (formItems items, rest) := by
  induction items generalizing fuel with
  | nil => contradiction
  | cons x xs ih =>
    obtain ⟨n, rfl⟩ : ∃ n, fuel = n + 1 := ⟨fuel - 1, by omega⟩
    have hx := h x List.mem_cons_self n
    cases xs with
    | nil =>
      have hlast := hx (']' :: rest) (by simpa using hl) (closes_cons (by decide) _)
      simp [readItems?, hlast, formItems, skipSpace, isSpace]
    | cons y ys =>
      simp only [List.map_cons, List.intercalate_cons_cons, List.length_append, List.length_cons,
        List.append_assoc, List.cons_append, List.nil_append] at hl ih ⊢
      have hfirst := hx (',' :: ([','].intercalate (y.chars :: ys.map chars) ++ ']' :: rest))
        (by omega) (closes_cons (by decide) _)
      have hl' : ([','].intercalate (y.chars :: ys.map chars)).length + 1 < n := by omega
      have hlater := ih (by simp) (fun z hz => h z (List.mem_cons_of_mem _ hz)) hl'
      simp [readItems?, hfirst, hlater, formItems, skipSpace, isSpace]

/-- One member is read; what comes after it decides whether there are more. -/
theorem readMembers?_memberChars {fuel : Nat} {m : String × Json} {tail : List Char}
    (hx : readForm? fuel (m.2.chars ++ tail) = some (m.2.form, tail)) :
    readMembers? (fuel + 1) (memberChars m ++ tail) =
      match skipSpace tail with
      | ',' :: rest => (readMembers? fuel rest).map fun p => ((letters m.1, m.2.form) :: p.1, p.2)
      | '\x7d' :: rest => some ([(letters m.1, m.2.form)], rest)
      | _ => none := by
  have hchars : memberChars m ++ tail =
      '"' :: (m.1.toList.flatMap escape ++ '"' :: ':' :: (m.2.chars ++ tail)) := by
    simp [memberChars, toList_textOfString]
  rw [hchars, readMembers?.eq_def]
  simp only [skipSpace_cons (c := '"') rfl, readLetters?_string, skipSpace_cons (c := ':') rfl, hx,
    Option.bind_eq_bind, Option.bind_some]
  cases skipSpace tail with
  | nil => rfl
  | cons c rest =>
    by_cases hcomma : c = ','
    · subst hcomma
      exact Option.map_eq_bind.symm
    · by_cases hbrace : c = '\x7d'
      · subst hbrace
        rfl
      · simp [hcomma, hbrace]

theorem readMembers?_chars {members : List (String × Json)} (hne : members ≠ [])
    (h : ∀ m ∈ members, ReadsBack m.2) {fuel : Nat} (rest : List Char)
    (hl : ([','].intercalate (members.map memberChars)).length + 1 < fuel) :
    readMembers? fuel ([','].intercalate (members.map memberChars) ++ '\x7d' :: rest) =
      some (formMembers members, rest) := by
  induction members generalizing fuel with
  | nil => contradiction
  | cons m ms ih =>
    obtain ⟨n, rfl⟩ : ∃ n, fuel = n + 1 := ⟨fuel - 1, by omega⟩
    have hx := h m List.mem_cons_self n
    have hm : m.2.chars.length < (memberChars m).length := by
      simp only [memberChars, List.length_append, List.length_cons]
      omega
    cases ms with
    | nil =>
      simp only [List.map_cons, List.map_nil, List.intercalate_singleton] at hl ⊢
      have hlast := hx ('\x7d' :: rest) (by omega) (closes_cons (by decide) _)
      rw [readMembers?_memberChars hlast, skipSpace_cons rfl]
      rfl
    | cons m' ms =>
      simp only [List.map_cons, List.intercalate_cons_cons, List.length_append, List.length_cons,
        List.append_assoc, List.cons_append, List.nil_append] at hl ih ⊢
      have hfirst := hx
        (',' :: ([','].intercalate (memberChars m' :: ms.map memberChars) ++ '\x7d' :: rest))
        (by omega) (closes_cons (by decide) _)
      have hl' : ([','].intercalate (memberChars m' :: ms.map memberChars)).length + 1 < n := by
        omega
      have hlater := ih (by simp) (fun z hz => h z (List.mem_cons_of_mem _ hz)) hl'
      rw [readMembers?_memberChars hfirst, skipSpace_cons rfl]
      simp only [hlater]
      rfl

theorem readsBack_of_succ {x : Json} (h : ∀ n rest, x.chars.length ≤ n → Closes rest →
    readForm? (n + 1) (x.chars ++ rest) = some (x.form, rest)) : ReadsBack x := by
  intro fuel rest hl hr
  obtain ⟨n, rfl⟩ : ∃ n, fuel = n + 1 := ⟨fuel - 1, by omega⟩
  exact h n rest (by omega) hr

theorem readsBack_string (s : String) : ReadsBack (.string s) := by
  refine readsBack_of_succ fun n rest _ _ => ?_
  have hs : chars (.string s) ++ rest = '"' :: (s.toList.flatMap escape ++ '"' :: rest) := by
    simp [chars, text, toList_textOfString]
  rw [hs, readForm?.eq_def]
  simp only [skipSpace_cons (c := '"') rfl, readLetters?_string]
  rfl

theorem readsBack_numeral {n : Numeral} (h : readNumeral? x.chars = some (n, []))
    (hx : x.form = .number n) : ReadsBack x := by
  refine readsBack_of_succ fun fuel rest _ hr => ?_
  obtain ⟨c, cs, hc, hstart⟩ := exists_eq_cons_of_readNumeral? h
  have hnumeral := readNumeral?_append_closes h hr
  rw [hc] at hnumeral ⊢
  rw [List.cons_append, readForm?_numeral fuel hstart, ← List.cons_append, hnumeral, hx]
  rfl

theorem exists_intercalate_append_eq_cons (c : Char) (cs : List Char) (parts : List (List Char))
    (rest : List Char) :
    ∃ tail, [','].intercalate ((c :: cs) :: parts) ++ rest = c :: tail := by
  cases parts with
  | nil => exact ⟨cs ++ rest, by simp⟩
  | cons part parts => exact ⟨_, by rw [List.intercalate_cons_cons]; rfl⟩

theorem readsBack_array {items : List Json} (hp : ∀ x ∈ items, Shaped order depth x)
    (h : ∀ x ∈ items, ReadsBack x) : ReadsBack (.array items) := by
  refine readsBack_of_succ fun n rest hl _ => ?_
  rw [chars_array] at hl ⊢
  simp only [List.length_cons, List.length_append, List.length_nil, List.cons_append,
    List.append_assoc, List.nil_append] at hl ⊢
  rw [readForm?.eq_def]
  simp only [skipSpace_cons (c := '[') rfl]
  cases items with
  | nil => rfl
  | cons x xs =>
    have hl' : ([','].intercalate ((x :: xs).map chars)).length + 1 < n := by omega
    have hitems := readItems?_chars (List.cons_ne_nil x xs) h rest hl'
    -- The first item shows that the array does not end at once.
    obtain ⟨c, cs, hc, hspace, hbracket⟩ := (hp x List.mem_cons_self).exists_chars_eq_cons
    rw [List.map_cons, hc] at hitems ⊢
    obtain ⟨tail, ht⟩ := exists_intercalate_append_eq_cons c cs (xs.map chars) (']' :: rest)
    rw [ht] at hitems ⊢
    rw [skipSpace_cons hspace]
    split
    · next he => exact absurd (List.cons.inj he).1 hbracket
    · rw [hitems]
      rfl

theorem readsBack_object {members : List (String × Json)} (h : ∀ m ∈ members, ReadsBack m.2) :
    ReadsBack (.object members) := by
  refine readsBack_of_succ fun n rest hl _ => ?_
  rw [chars_object] at hl ⊢
  simp only [List.length_cons, List.length_append, List.length_nil, List.cons_append,
    List.append_assoc, List.nil_append] at hl ⊢
  rw [readForm?.eq_def]
  simp only [skipSpace_cons (c := '\x7b') rfl]
  cases members with
  | nil => rfl
  | cons m ms =>
    have hl' : ([','].intercalate ((m :: ms).map memberChars)).length + 1 < n := by omega
    have hmembers := readMembers?_chars (List.cons_ne_nil m ms) h rest hl'
    have hm : memberChars m = '"' :: (m.1.toList.flatMap escape ++ '"' :: ':' :: m.2.chars) := by
      simp [memberChars, toList_textOfString]
    rw [List.map_cons, hm] at hmembers ⊢
    obtain ⟨tail, ht⟩ := exists_intercalate_append_eq_cons '"'
      (m.1.toList.flatMap escape ++ '"' :: ':' :: m.2.chars) (ms.map memberChars)
      ('\x7d' :: rest)
    rw [ht] at hmembers ⊢
    rw [skipSpace_cons rfl]
    split
    · next he => exact absurd (List.cons.inj he).1 (by decide)
    · rw [hmembers]
      rfl

theorem Shaped.readsBack (h : Shaped order depth x) : ReadsBack x := by
  induction h with
  | null => exact readsBack_of_succ fun _ _ _ _ => rfl
  | bool b =>
    cases b with
    | true | false => exact readsBack_of_succ fun _ _ _ _ => rfl
  | integer => exact readsBack_numeral (readNumeral?_toString _) rfl
  | decimal hn _ => exact readsBack_numeral (Numeral.readNumeral?_of_ofText? hn) (form_decimal hn)
  | string s => exact readsBack_string s
  | array hp ih => exact readsBack_array hp ih
  | object _ _ ih => exact readsBack_object ih

theorem Shaped.ofText?_text (h : Shaped order depth x) :
    Form.ofText? x.text = some x.form := by
  have hread := h.readsBack (x.chars.length + 1) [] (Nat.lt_succ_self _) closes_nil
  rw [List.append_nil] at hread
  simp only [Form.ofText?, Option.bind_eq_bind]
  change (readForm? (x.chars.length + 1) x.chars).bind _ = _
  rw [hread]
  rfl

end
end BuildOperator.Json
