import ResourceApi.Proofs.Data.SortedMap
import ResourceApi.Proofs.Json.Printer

/-!
# Reading what was written

A value is read back from its text if the members of its objects stand in the order of their names, if it is not nested too
deep, and if its numbers are read back (`Json.Readable`): integers are as long as they fit 64 bits (`Json.readNumber_integer`),
and of a double the reader may make the next to it. What follows a value in a text is left as it is, so the parts of a value are
read one after another (`Json.Readable.readsBack`).
-/

namespace ResourceApi

namespace Entries

/-- Put after entries that stand before it, an entry goes to the end. -/
theorem insert_of_sorted {α : Type} {entries : List (String × α)} {name : String} {value : α}
    (sorted : Sorted (entries ++ [(name, value)])) : insert name value entries = entries ++ [(name, value)] := by
  induction entries with
  | nil => rfl
  | cons p rest ih =>
    obtain ⟨other, old⟩ := p
    obtain ⟨first, later⟩ := List.pairwise_cons.1 sorted
    have before : Text.before other name = true := first (name, value) (List.mem_append_right _ List.mem_cons_self)
    rw [insert, if_neg (Text.ne_of_before before).symm, if_neg (by simp [Text.before_asymm before]), ih later]
    rfl

end Entries

namespace Json

/-! ## Numbers -/

/-- What may stand after a value begins with no other character. -/
theorem Follows.ne {c other : Char} {more : List Char} (h : Follows (c :: more)) (unstopped : isStop other = false) :
    c ≠ other := by
  rintro rfl
  rw [h c rfl] at unstopped
  cases unstopped

/-- What may stand after a value does not begin with a digit. -/
theorem Follows.not_isDigit {c : Char} {more : List Char} (h : Follows (c :: more)) : c.isDigit = false := by
  have stop := h c rfl
  simp only [isStop, Bool.or_eq_true, beq_iff_eq] at stop
  rcases stop with (rfl | rfl) | rfl <;> rfl

/-- The sign before digits, and the digits. -/
def signed (s : List Char) : Bool × List Char :=
  match s with
  | '-' :: rest => (true, rest)
  | '+' :: rest => (false, rest)
  | _ => (false, s)

theorem signed_cons_of_ne {c : Char} (minus : c ≠ '-') (plus : c ≠ '+') (more : List Char) :
    signed (c :: more) = (false, c :: more) := by
  unfold signed
  split
  · next begins => exact absurd (List.cons.inj begins).1 minus
  · next begins => exact absurd (List.cons.inj begins).1 plus
  · rfl

/-- The minus before a number, and the number. -/
def unsigned (s : List Char) : Bool × List Char :=
  match s with
  | '-' :: rest => (true, rest)
  | _ => (false, s)

theorem unsigned_cons_of_ne {c : Char} (minus : c ≠ '-') (more : List Char) :
    unsigned (c :: more) = (false, c :: more) := by
  unfold unsigned
  split
  · next begins => exact absurd (List.cons.inj begins).1 minus
  · rfl

/-- A number is read in parts: its sign, its whole digits, its fraction and its power. -/
theorem readNumber_eq (s : List Char) :
    readNumber s = (readWhole (unsigned s).2).bind fun whole =>
      (readFraction whole.2).bind fun fraction =>
        (readPower fraction.2).bind fun power =>
          (Numeral.value? ⟨(unsigned s).1, whole.1, fraction.1, power.1⟩).bind fun value => some (value, power.2) := by
  rfl

/-- A power is read in parts: its sign and its digits. -/
theorem readSigned_eq (s : List Char) :
    readSigned s = (readDigits (signed s).2).map fun read =>
      (if (signed s).1 then -(Nat.ofDigitChars 10 read.1 0 : Int) else Nat.ofDigitChars 10 read.1 0, read.2) := by
  rfl

/-- A reader reads from a text what it reads where more follows, and leaves what follows as it is. -/
def Leaves {α : Type} (rest : List Char) (read : List Char → Option (α × List Char)) : Prop :=
  ∀ s, read (s ++ rest) = (read s).map fun found => (found.1, found.2 ++ rest)

/-- Readers that leave what follows do so one after another. -/
theorem Leaves.bind {α β : Type} {rest : List Char} {first : List Char → Option (α × List Char)}
    {next : α → List Char → Option (β × List Char)} (h : Leaves rest first) (later : ∀ found, Leaves rest (next found)) :
    Leaves rest fun s => (first s).bind fun found => next found.1 found.2 := by
  intro s
  simp only [h s]
  cases first s with
  | none => rfl
  | some found => exact later found.1 found.2

section

variable {rest : List Char} (ends : Follows rest)

include ends

/-- Digits end where the text after the number begins. -/
theorem leaves_readDigits : Leaves rest readDigits := by
  intro s
  have none : rest.takeWhile Char.isDigit = [] ∧ rest.dropWhile Char.isDigit = rest := by
    cases rest with
    | nil => exact ⟨rfl, rfl⟩
    | cons c more =>
      have other := ends.not_isDigit
      exact ⟨List.takeWhile_cons_of_neg (by simp [other]), List.dropWhile_cons_of_neg (by simp [other])⟩
  have taken : (s ++ rest).takeWhile Char.isDigit = s.takeWhile Char.isDigit := by
    rw [List.takeWhile_append, none.1, List.append_nil]
    split
    · next all => exact ((List.takeWhile_prefix _).eq_of_length all).symm
    · rfl
  have left : (s ++ rest).dropWhile Char.isDigit = s.dropWhile Char.isDigit ++ rest := by
    rw [List.dropWhile_append, none.2]
    split
    · next all => rw [List.isEmpty_iff.1 all, List.nil_append]
    · rfl
  unfold readDigits
  simp only [taken, left]
  split <;> rfl

/-- What follows the whole digits is left as it is. -/
theorem leaves_readWhole : Leaves rest readWhole := by
  intro s
  unfold readWhole
  rw [leaves_readDigits ends]
  cases readDigits s with
  | none => rfl
  | some read =>
    simp only [Option.map_some, Option.bind_some]
    split <;> rfl

/-- What follows a fraction is left as it is, and is not taken for one where there is none. -/
theorem leaves_readFraction : Leaves rest readFraction := by
  intro s
  unfold readFraction
  cases s with
  | nil =>
    rw [List.nil_append]
    split
    · exact absurd rfl (ends.ne (by decide))
    · rfl
  | cons c more =>
    by_cases point : c = '.'
    · subst point
      simp only [List.cons_append, leaves_readDigits ends more]
      cases readDigits more <;> rfl
    · simp [point]

/-- What follows a number has no sign that could be taken for that of its power. -/
theorem signed_append (s : List Char) : signed (s ++ rest) = ((signed s).1, (signed s).2 ++ rest) := by
  cases s with
  | nil =>
    cases rest with
    | nil => rfl
    | cons c more => exact signed_cons_of_ne (ends.ne (by decide)) (ends.ne (by decide)) more
  | cons c more =>
    by_cases minus : c = '-'
    · subst minus
      rfl
    by_cases plus : c = '+'
    · subst plus
      rfl
    rw [List.cons_append, signed_cons_of_ne minus plus, signed_cons_of_ne minus plus]
    rfl

/-- What follows the digits of a power is left as it is. -/
theorem leaves_readSigned : Leaves rest readSigned := by
  intro s
  rw [readSigned_eq, readSigned_eq, signed_append ends, leaves_readDigits ends]
  cases readDigits (signed s).2 <;> rfl

/-- What follows a power is left as it is, and is not taken for one where there is none. -/
theorem leaves_readPower : Leaves rest readPower := by
  intro s
  unfold readPower
  cases s with
  | nil =>
    cases rest with
    | nil => rfl
    | cons c more => exact if_neg (not_or.2 ⟨ends.ne (by decide), ends.ne (by decide)⟩)
  | cons c more =>
    simp only [List.cons_append, leaves_readSigned ends more]
    split
    · cases readSigned more <;> rfl
    · rfl

/-- What follows a number has no minus that could be taken for its own. -/
theorem unsigned_append (s : List Char) : unsigned (s ++ rest) = ((unsigned s).1, (unsigned s).2 ++ rest) := by
  cases s with
  | nil =>
    cases rest with
    | nil => rfl
    | cons c more => exact unsigned_cons_of_ne (ends.ne (by decide)) more
  | cons c more =>
    by_cases minus : c = '-'
    · subst minus
      rfl
    rw [List.cons_append, unsigned_cons_of_ne minus, unsigned_cons_of_ne minus]
    rfl

/-- What follows a number is left as it is. -/
theorem leaves_readNumber : Leaves rest readNumber := by
  intro s
  rw [readNumber_eq, readNumber_eq, unsigned_append ends]
  have made (numeral : Numeral) :
      Leaves rest fun left => (Numeral.value? numeral).bind fun value => some (value, left) := by
    intro left
    cases Numeral.value? numeral <;> rfl
  exact (leaves_readWhole ends).bind (fun whole => (leaves_readFraction ends).bind fun fraction =>
    (leaves_readPower ends).bind fun power => made ⟨(unsigned s).1, whole, fraction, power⟩) (unsigned s).2

end

/-! ### Integers -/

/-- Only zero is written with a leading zero. -/
theorem head?_toDigits_ne {n : Nat} (positive : 0 < n) : (Nat.toDigits 10 n).head? ≠ some '0' := by
  induction n using Nat.strongRecOn with
  | ind n ih =>
    rw [Nat.toDigits_eq_if (by decide)]
    split
    · next small =>
      intro zero
      have digit : n.digitChar = '0' := Option.some.inj zero
      have none : n = 0 := Nat.digitChar_eq_zero.1 digit
      omega
    · next large =>
      intro zero
      have first : (Nat.toDigits 10 (n / 10)).head? = some '0' := by
        obtain ⟨c, more, begins⟩ := List.exists_cons_of_ne_nil (Nat.toDigits_ne_nil (b := 10) (n := n / 10))
        rw [begins] at zero ⊢
        exact zero
      exact ih (n / 10) (by omega) (by omega) first

/-- More digits make no number smaller. -/
theorem le_ofDigitChars (digits : List Char) (significand : Nat) :
    significand ≤ Nat.ofDigitChars 10 digits significand := by
  rw [Nat.ofDigitChars_eq_ofDigitChars_zero]
  exact Nat.le_add_right_of_le (Nat.le_mul_of_pos_left _ (Nat.pow_pos (by decide)))

/-- Digits whose number fits are all gathered. -/
theorem gather_of_fits {digits : List Char} {significand : Nat}
    (fits : Nat.ofDigitChars 10 digits significand < significandLimit) :
    gather significand digits = (Nat.ofDigitChars 10 digits significand, []) := by
  induction digits generalizing significand with
  | nil => rfl
  | cons c rest ih =>
    rw [Nat.ofDigitChars_cons, Nat.mul_comm] at fits ⊢
    have shorter := Nat.lt_of_le_of_lt (le_ofDigitChars rest _) fits
    simp only [gather, if_pos shorter]
    exact ih fits

/-- The digits of a number are read as its whole digits, and nothing is left. -/
theorem readWhole_toDigits (n : Nat) : readWhole (Nat.toDigits 10 n) = some (Nat.toDigits 10 n, []) := by
  have digits : ∀ c ∈ Nat.toDigits 10 n, c.isDigit = true := fun c among =>
    Nat.isDigit_of_mem_toDigits (by decide) (Nat.le_refl 10) among
  have read : readDigits (Nat.toDigits 10 n) = some (Nat.toDigits 10 n, []) := by
    have taken : (Nat.toDigits 10 n ++ []).takeWhile Char.isDigit = Nat.toDigits 10 n ++ [] :=
      List.takeWhile_append_of_pos digits
    have left : (Nat.toDigits 10 n ++ []).dropWhile Char.isDigit = [] := List.dropWhile_append_of_pos digits
    rw [List.append_nil] at taken left
    unfold readDigits
    rw [taken, left]
    exact if_neg (by simp [Nat.toDigits_ne_nil])
  have alone : ¬((Nat.toDigits 10 n).head? = some '0' ∧ (Nat.toDigits 10 n).length ≠ 1) := by
    rintro ⟨zero, longer⟩
    by_cases none : n = 0
    · exact longer (by rw [none]; rfl)
    · exact head?_toDigits_ne (Nat.pos_of_ne_zero none) zero
  unfold readWhole
  rw [read]
  exact if_neg alone

/-- No minus stands before digits. -/
theorem unsigned_toDigits (n : Nat) : unsigned (Nat.toDigits 10 n) = (false, Nat.toDigits 10 n) := by
  obtain ⟨c, more, begins⟩ := List.exists_cons_of_ne_nil (Nat.toDigits_ne_nil (b := 10) (n := n))
  rw [begins]
  refine unsigned_cons_of_ne (fun minus => ?_) more
  have digit : c.isDigit = true :=
    Nat.isDigit_of_mem_toDigits (by decide) (Nat.le_refl 10) (begins ▸ List.mem_cons_self)
  rw [minus] at digit
  cases digit

/-- A number without a fraction and a power is read as what its sign and its digits make. -/
theorem readNumber_of_unsigned {s : List Char} {negative : Bool} {n : Nat} {value : Number}
    (sign : unsigned s = (negative, Nat.toDigits 10 n))
    (made : Numeral.value? ⟨negative, Nat.toDigits 10 n, none, none⟩ = some value) : readNumber s = some (value, []) := by
  rw [readNumber_eq, sign, readWhole_toDigits]
  change (Numeral.value? ⟨negative, Nat.toDigits 10 n, none, none⟩).bind _ = _
  rw [made]
  rfl

/-- An integer is read back if it fits 64 bits. -/
theorem readNumber_integer {value : Int} (least : -0x8000000000000000 ≤ value) (most : value < 0x10000000000000000) :
    readNumber (Number.integer value).print = some (.integer value, []) := by
  have fits : Nat.ofDigitChars 10 (Nat.toDigits 10 value.natAbs) 0 < significandLimit := by
    rw [Nat.ofDigitChars_ten_toDigits]
    unfold significandLimit
    omega
  have gathered := gather_of_fits fits
  rw [Nat.ofDigitChars_ten_toDigits] at gathered
  have text : (Number.integer value).print = (if value < 0 then ['-'] else []) ++ Nat.toDigits 10 value.natAbs := rfl
  by_cases negative : value < 0
  · rw [if_pos negative] at text
    refine readNumber_of_unsigned (congrArg unsigned text) ?_
    have sign : -(value.natAbs : Int) = value := by omega
    have magnitude : value.natAbs ≠ 0 ∧ value.natAbs ≤ 0x8000000000000000 := by omega
    unfold Numeral.value?
    simp only [gathered]
    rw [if_neg (by simp), if_pos ⟨rfl, magnitude⟩, sign]
  · rw [if_neg negative, List.nil_append] at text
    refine readNumber_of_unsigned ((congrArg unsigned text).trans (unsigned_toDigits _)) ?_
    have sign : (value.natAbs : Int) = value := by omega
    unfold Numeral.value?
    simp only [gathered]
    rw [if_pos ⟨rfl, trivial⟩, sign]

/-! ## Values -/

/-- A value is read as it is written: its integers fit 64 bits, its doubles are read as themselves, the members of its objects
stand in the order of their names, and no more than a number of arrays and objects are open inside one another. -/
inductive Readable : (depth : Nat) → Json → Prop
  | null {depth : Nat} : Readable depth null
  | bool {depth : Nat} (value : Bool) : Readable depth (bool value)
  | integer {depth : Nat} {value : Int} (least : -0x8000000000000000 ≤ value) (most : value < 0x10000000000000000) :
    Readable depth (num (.integer value))
  | float {depth : Nat} {value : Binary64} (read : readNumber (Number.float value).print = some (.float value, [])) :
    Readable depth (num (.float value))
  | str {depth : Nat} (s : String) : Readable depth (str s)
  | arr {depth : Nat} {items : List Json} (each : ∀ item ∈ items, Readable depth item) : Readable (depth + 1) (arr items)
  | obj {depth : Nat} {members : List (String × Json)} (sorted : Entries.Sorted members)
      (each : ∀ member ∈ members, Readable depth member.2) : Readable (depth + 1) (obj members)

/-- A value may be nested less deep than it could be. -/
theorem Readable.mono {value : Json} {depth deeper : Nat} (h : value.Readable depth) (le : depth ≤ deeper) :
    value.Readable deeper := by
  induction h generalizing deeper with
  | null => exact .null
  | bool value => exact .bool value
  | integer least most => exact .integer least most
  | float read => exact .float read
  | str s => exact .str s
  | arr each ih =>
    cases deeper with
    | zero => cases le
    | succ deeper => exact .arr fun item among => ih item among (Nat.le_of_succ_le_succ le)
  | obj sorted each ih =>
    cases deeper with
    | zero => cases le
    | succ deeper => exact .obj sorted fun member among => ih member among (Nat.le_of_succ_le_succ le)

/-- A value is read from a text that begins with it, and what follows it is left. -/
def ReadsBack (depth : Nat) (value : Json) : Prop :=
  ∀ fuel rest, (print value).length < fuel → Follows rest → readValue fuel depth (print value ++ rest) = some (value, rest)

/-- No blank stands before a value. -/
theorem skipBlanks_print (value : Json) (rest : List Char) :
    skipBlanks (print value ++ rest) = print value ++ rest := by
  obtain ⟨c, more, begins, first⟩ := print_begins value
  have visible : isBlank c = false := by
    rcases first with opening | ⟨-, numeral⟩
    · cases value with
      | bool value => cases value <;> cases opening <;> rfl
      | num n => cases opening
      | null | str | arr | obj => cases opening; rfl
    · refine Bool.eq_false_iff.2 fun blank => ?_
      simp only [isBlank, Bool.or_eq_true, beq_iff_eq] at blank
      rcases blank with ((rfl | rfl) | rfl) | rfl <;> exact absurd numeral (by decide)
  unfold skipBlanks
  rw [begins, List.cons_append, List.dropWhile_cons_of_neg (by simp [visible])]

/-- The items of an array are read back one after another, up to the bracket that closes it. -/
theorem readItems_print {depth : Nat} {items : List Json} (some : items ≠ [])
    (each : ∀ item ∈ items, item.ReadsBack depth) {fuel : Nat} (enough : (printItems items).length + 1 < fuel)
    (rest : List Char) : readItems fuel depth (printItems items ++ ']' :: rest) = .some (items, rest) := by
  induction items generalizing fuel with
  | nil => exact absurd rfl some
  | cons item items ih =>
    cases fuel with
    | zero => cases enough
    | succ fuel =>
      obtain ⟨first, later⟩ := List.forall_mem_cons.1 each
      rw [printItems_cons, readItems]
      cases items with
      | nil =>
        rw [printItems] at enough
        rw [first fuel _ (by omega) (follows_afterItem rest [])]
        rfl
      | cons next more =>
        simp only [printItems, List.length_append, List.length_cons] at enough
        rw [first fuel _ (by omega) (follows_afterItem rest (next :: more))]
        have read : readItems fuel depth (printItems (next :: more) ++ ']' :: rest) = .some (next :: more, rest) :=
          ih (List.cons_ne_nil _ _) later (by omega)
        change (readItems fuel depth (printItems (next :: more) ++ ']' :: rest)).bind _ = _
        rw [read]
        rfl

/-- A string is written in no fewer characters than it has. -/
theorem length_le_flatMap_escapeChar (s : List Char) : s.length ≤ (s.flatMap escapeChar).length := by
  induction s with
  | nil => exact Nat.le_refl _
  | cons c s ih =>
    have some : 0 < (escapeChar c).length := by
      rcases escapeChar_cases c with ⟨plain, -⟩ | ⟨escape, escaped, -⟩
      · rw [plain]
        exact Nat.one_pos
      · rw [escaped]
        exact Nat.succ_pos _
    rw [List.flatMap_cons, List.length_append, List.length_cons]
    omega

/-- A name is read after its opening quote. -/
theorem readString_print (s : String) {fuel : Nat} (enough : (printString s).length ≤ fuel) (rest : List Char) :
    readString fuel ((printString s).tail ++ rest) = some (s.toList, rest) := by
  have shorter := length_le_flatMap_escapeChar s.toList
  simp only [printString, List.cons_append, List.length_cons, List.length_append, List.length_nil] at enough
  rw [printString, List.cons_append, List.tail_cons, List.append_assoc]
  exact readString_escaped s.toList rest (by omega)

/-- A member is read and put among those before it. -/
theorem readMembers_step {fuel depth : Nat} (before : List (String × Json)) {name : String} {value : Json}
    {after : List Char} (reads : value.ReadsBack depth) (named : (printString name).length ≤ fuel)
    (enough : (print value).length < fuel) (follows : Follows after) :
    readMembers (fuel + 1) depth before (printString name ++ ':' :: (print value ++ after)) =
      match skipBlanks after with
      | '\x7d' :: rest => some (Entries.insert name value before, rest)
      | ',' :: rest => readMembers fuel depth (Entries.insert name value before) rest
      | _ => none := by
  have quoted : printString name = '"' :: (printString name).tail := rfl
  rw [readMembers, quoted]
  change (readString fuel ((printString name).tail ++ ':' :: (print value ++ after))).bind _ = _
  rw [readString_print name named, Option.bind_some]
  change (readValue fuel depth (print value ++ after)).bind _ = _
  rw [reads fuel after enough follows, Option.bind_some, String.ofList_toList]
  rfl

/-- The members of an object are read back one after another, up to the brace that closes it. -/
theorem readMembers_print {depth : Nat} {members before : List (String × Json)} (some : members ≠ [])
    (sorted : Entries.Sorted (before ++ members)) (each : ∀ member ∈ members, member.2.ReadsBack depth) {fuel : Nat}
    (enough : (printMembers members).length + 1 < fuel) (rest : List Char) :
    readMembers fuel depth before (printMembers members ++ '\x7d' :: rest) = .some (before ++ members, rest) := by
  -- The members that are read already stand before all that follow, so each one is put after them.
  induction members generalizing fuel before with
  | nil => exact absurd rfl some
  | cons member members ih =>
    obtain ⟨name, value⟩ := member
    cases fuel with
    | zero => cases enough
    | succ fuel =>
      obtain ⟨first, later⟩ : value.ReadsBack depth ∧ ∀ member ∈ members, member.2.ReadsBack depth :=
        List.forall_mem_cons.1 each
      have put : Entries.insert name value before = before ++ [(name, value)] :=
        Entries.insert_of_sorted (sorted.sublist ((List.Sublist.refl before).append ((List.nil_sublist members).cons_cons _)))
      rw [printMembers_cons]
      cases members with
      | nil =>
        simp only [printMembers, List.length_append, List.length_cons] at enough
        rw [readMembers_step before first (by omega) (by omega) (follows_afterMember rest []), put]
        rfl
      | cons next more =>
        simp only [printMembers, List.length_append, List.length_cons] at enough
        rw [readMembers_step before first (by omega) (by omega) (follows_afterMember rest (next :: more)), put]
        rw [← List.singleton_append, ← List.append_assoc] at sorted
        have read : readMembers fuel depth (before ++ [(name, value)]) (printMembers (next :: more) ++ '\x7d' :: rest) =
            .some (before ++ [(name, value)] ++ next :: more, rest) :=
          ih (List.cons_ne_nil _ _) sorted later (by omega)
        rw [List.append_assoc, List.singleton_append] at read
        exact read

/-- A number is read, since it begins like no other value. -/
theorem readsBack_num {n : Number} (read : readNumber n.print = some (n, [])) (depth : Nat) : (num n).ReadsBack depth := by
  intro fuel rest enough follows
  cases fuel with
  | zero => cases enough
  | succ fuel =>
    obtain ⟨c, more, begins⟩ := List.exists_cons_of_ne_nil (print_number_ne_nil n)
    have numeral : isNumeral c = true := isNumeral_print (begins ▸ List.mem_cons_self)
    have other (d : Char) (h : isNumeral d = false) : c ≠ d := by
      rintro rfl
      rw [numeral] at h
      cases h
    have whole : readNumber (c :: (more ++ rest)) = some (n, rest) := by
      rw [← List.cons_append, ← begins, leaves_readNumber follows, read]
      rfl
    rw [readValue, skipBlanks_print, print, begins]
    simp only [List.cons_append, if_neg (other 'n' rfl), if_neg (other 't' rfl), if_neg (other 'f' rfl),
      if_neg (other '"' rfl), if_neg (other '[' rfl), if_neg (other '\x7b' rfl), whole]
    rfl

/-- A string is read back, whatever is in it. -/
theorem readsBack_str (s : String) (depth : Nat) : (str s).ReadsBack depth := by
  intro fuel rest enough follows
  cases fuel with
  | zero => cases enough
  | succ fuel =>
    have quoted : printString s = '"' :: (printString s).tail := rfl
    rw [print] at enough ⊢
    rw [readValue, quoted]
    change (readString fuel ((printString s).tail ++ rest)).map _ = _
    rw [readString_print s (by omega)]
    simp

/-- An array is read back one level deeper than its items. -/
theorem readsBack_arr {items : List Json} {depth : Nat} (each : ∀ item ∈ items, item.ReadsBack depth) :
    (arr items).ReadsBack (depth + 1) := by
  intro fuel rest enough follows
  cases fuel with
  | zero => cases enough
  | succ fuel =>
    have text : print (arr items) ++ rest = '[' :: (printItems items ++ ']' :: rest) := by
      rw [print, List.cons_append, List.cons_append, List.append_assoc, List.singleton_append]
    rw [print, List.cons_append, List.length_cons, List.length_append, List.length_singleton] at enough
    have opens (text : List Char) : skipBlanks ('[' :: text) = '[' :: text := rfl
    rw [text, readValue, opens]
    simp only [Char.reduceEq, ↓reduceIte]
    cases items with
    | nil => rfl
    | cons item items =>
      have read := readItems_print (List.cons_ne_nil item items) each (Nat.lt_of_succ_lt_succ enough) rest
      rw [printItems_cons] at read ⊢
      rw [skipBlanks_print]
      split
      · next none => cases none
      · next closes => exact absurd closes (print_append_ne item _ _)
      · next same _ =>
        obtain rfl := Nat.succ.inj same
        rw [read]
        rfl

/-- An object is read back one level deeper than its members, if these stand in the order of their names. -/
theorem readsBack_obj {members : List (String × Json)} {depth : Nat} (sorted : Entries.Sorted members)
    (each : ∀ member ∈ members, member.2.ReadsBack depth) : (obj members).ReadsBack (depth + 1) := by
  intro fuel rest enough follows
  cases fuel with
  | zero => cases enough
  | succ fuel =>
    have text : print (obj members) ++ rest = '\x7b' :: (printMembers members ++ '\x7d' :: rest) := by
      rw [print, List.cons_append, List.cons_append, List.append_assoc, List.singleton_append]
    rw [print, List.cons_append, List.length_cons, List.length_append, List.length_singleton] at enough
    have opens (text : List Char) : skipBlanks ('\x7b' :: text) = '\x7b' :: text := rfl
    rw [text, readValue, opens]
    simp only [Char.reduceEq, ↓reduceIte]
    cases members with
    | nil => rfl
    | cons member members =>
      obtain ⟨name, value⟩ := member
      have read : readMembers fuel depth [] (printMembers ((name, value) :: members) ++ '\x7d' :: rest) =
          some ([] ++ (name, value) :: members, rest) :=
        readMembers_print (List.cons_ne_nil _ _) sorted each (Nat.lt_of_succ_lt_succ enough) rest
      rw [printMembers_cons] at read ⊢
      change (readMembers fuel depth [] (printString name ++ ':' :: (print value ++ afterMember rest members))).map _ = _
      rw [read]
      rfl

/-- A word is read where a text begins with it. -/
theorem readsBack_null (depth : Nat) : null.ReadsBack depth := by
  intro fuel rest enough follows
  cases fuel with
  | zero => cases enough
  | succ fuel =>
    rw [print, readValue]
    rfl

theorem readsBack_bool (value : Bool) (depth : Nat) : (bool value).ReadsBack depth := by
  intro fuel rest enough follows
  cases fuel with
  | zero => cases enough
  | succ fuel => cases value <;> rw [print, readValue] <;> rfl

/-- A value is read back from its text, and what follows it is left as it is. -/
theorem Readable.readsBack {depth : Nat} {value : Json} (h : value.Readable depth) : value.ReadsBack depth := by
  induction h with
  | null => exact readsBack_null _
  | bool value => exact readsBack_bool value _
  | integer least most => exact readsBack_num (readNumber_integer least most) _
  | float read => exact readsBack_num read _
  | str s => exact readsBack_str s _
  | arr _ each => exact readsBack_arr each
  | obj sorted _ each => exact readsBack_obj sorted each

/-- A value is read back from its bytes. -/
theorem Readable.ofBytes?_bytes {value : Json} (h : value.Readable maxDepth) : ofBytes? value.bytes = some value := by
  have read := h.readsBack (value.print.length + 1) [] (Nat.lt_succ_self _) nofun
  rw [List.append_nil] at read
  unfold ofBytes? bytes
  rw [Utf8.decodeChars?_encodeChars, Option.bind_some]
  unfold ofChars?
  rw [read]
  rfl

end Json

end ResourceApi
