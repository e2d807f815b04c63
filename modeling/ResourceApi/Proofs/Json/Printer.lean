import ResourceApi.Json.Printer
import ResourceApi.Json.Reader
import ResourceApi.Text.Utf8.Encoding

/-!
# Texts of values

A string that was written is read back as it was (`Json.readString_escaped`), and where a value ends can be seen from a text
that begins with it (`Json.print_cancel`). So the text of an array tells the texts of its items, and the text of an object
the names and the texts of its members (`Json.arr_of_print`, `Json.obj_of_print`). Two values have one text only if they
differ in nothing but numbers that are spelled alike.
-/

namespace ResourceApi

/-- The digit of a value below sixteen has this value. -/
theorem Text.digitValue?_digitChar {n : Nat} (h : n < 16) : Text.digitValue? 16 (Nat.digitChar n) = some n := by
  have all : ∀ n : Fin 16, Text.digitValue? 16 (Nat.digitChar n) = some n.val := by decide +kernel
  exact all ⟨n, h⟩

namespace Json

/-! ## Strings -/

/-- A control character that is written by its number is read back. -/
theorem readEscape_hexByte {c : Char} (h : c.toNat < 0x20) (rest : List Char) :
    readEscape (['u', '0', '0'] ++ Text.hexByte c.toNat ++ rest) = some (c, rest) := by
  have zero : Text.digitValue? 16 '0' = some 0 := by decide +kernel
  have high := Text.digitValue?_digitChar (show c.toNat / 16 < 16 by omega)
  have low := Text.digitValue?_digitChar (show c.toNat % 16 < 16 by omega)
  have unit : readUnit (['0', '0'] ++ Text.hexByte c.toNat ++ rest) = some (c.toNat, rest) := by
    change (do
      let a ← Text.digitValue? 16 '0'
      let b ← Text.digitValue? 16 '0'
      let high ← Text.digitValue? 16 (Nat.digitChar (c.toNat / 16))
      let low ← Text.digitValue? 16 (Nat.digitChar (c.toNat % 16))
      return (((a * 16 + b) * 16 + high) * 16 + low, rest)) = some (c.toNat, rest)
    rw [zero, high, low]
    have value : ((0 * 16 + 0) * 16 + c.toNat / 16) * 16 + c.toNat % 16 = c.toNat := by omega
    exact congrArg (fun n => some (n, rest)) value
  change readNumbered (['0', '0'] ++ Text.hexByte c.toNat ++ rest) = _
  unfold readNumbered
  rw [unit]
  change (if c.toNat < 0xD800 ∨ 0xE000 ≤ c.toNat then some (Char.ofNat c.toNat, rest) else _) = _
  rw [if_pos (.inl (by omega)), Char.ofNat_toNat]

/-- A character is written as it is, unless it is written by an escape, and then the escape is read back as it. -/
theorem escapeChar_cases (c : Char) :
    (escapeChar c = [c] ∧ c ≠ '"' ∧ c ≠ '\\' ∧ ¬c.toNat < 0x20) ∨
      ∃ escape, escapeChar c = '\\' :: escape ∧ ∀ rest, readEscape (escape ++ rest) = some (c, rest) := by
  unfold escapeChar
  split
  · next quote => exact .inr ⟨['"'], rfl, fun rest => by rw [quote]; rfl⟩
  · next noQuote =>
    split
    · next slash => exact .inr ⟨['\\'], rfl, fun rest => by rw [slash]; rfl⟩
    · next noSlash =>
      split
      · next back => exact .inr ⟨['b'], rfl, fun rest => by rw [back]; rfl⟩
      split
      · next page => exact .inr ⟨['f'], rfl, fun rest => by rw [page]; rfl⟩
      split
      · next line => exact .inr ⟨['n'], rfl, fun rest => by rw [line]; rfl⟩
      split
      · next carriage => exact .inr ⟨['r'], rfl, fun rest => by rw [carriage]; rfl⟩
      split
      · next tab => exact .inr ⟨['t'], rfl, fun rest => by rw [tab]; rfl⟩
      split
      · next control => exact .inr ⟨['u', '0', '0'] ++ Text.hexByte c.toNat, rfl, readEscape_hexByte control⟩
      · next visible => exact .inl ⟨rfl, noQuote, noSlash, visible⟩

/-- A string that was written is read back, and nothing of what follows it is. -/
theorem readString_escaped (s rest : List Char) {fuel : Nat} (enough : s.length < fuel) :
    readString fuel (s.flatMap escapeChar ++ '"' :: rest) = some (s, rest) := by
  induction s generalizing fuel with
  | nil =>
    cases fuel with
    | zero => cases enough
    | succ fuel => rfl
  | cons c s ih =>
    cases fuel with
    | zero => cases enough
    | succ fuel =>
      have later := ih (Nat.lt_of_succ_lt_succ enough)
      rw [List.flatMap_cons, List.append_assoc]
      rcases escapeChar_cases c with ⟨plain, noQuote, noSlash, visible⟩ | ⟨escape, escaped, read⟩
      · rw [plain, List.singleton_append, readString, if_neg noQuote, if_neg noSlash, if_neg visible, later]
        rfl
      · rw [escaped, List.cons_append, readString, if_neg (by decide), if_pos rfl, read]
        change (readString fuel _).bind _ = _
        rw [later]
        rfl

/-- Where a string ends and which it is can be seen from a text that begins with it. -/
theorem printString_cancel {s t : String} {rest rest' : List Char} (h : printString s ++ rest = printString t ++ rest') :
    s = t ∧ rest = rest' := by
  unfold printString at h
  simp only [List.cons_append, List.append_assoc, List.cons.injEq, true_and, List.nil_append] at h
  have first := readString_escaped s.toList rest (Nat.lt_succ_of_le (Nat.le_max_left _ t.toList.length))
  have second := readString_escaped t.toList rest' (Nat.lt_succ_of_le (Nat.le_max_right s.toList.length _))
  rw [h, second] at first
  obtain ⟨same, last⟩ := Prod.mk.inj (Option.some.inj first)
  exact ⟨String.toList_injective same.symm, last.symm⟩

/-! ## Numbers -/

/-- The characters of numbers. -/
def isNumeral (c : Char) : Bool :=
  c.isDigit || c == '-' || c == '+' || c == '.' || c == 'e'

/-- Digits are characters of numbers. -/
theorem isNumeral_of_mem_toDigits {n : Nat} {c : Char} (h : c ∈ Nat.toDigits 10 n) : isNumeral c = true := by
  have digit : c.isDigit = true := Nat.isDigit_of_mem_toDigits (by decide) (Nat.le_refl 10) h
  unfold isNumeral
  rw [digit]
  rfl

theorem isNumeral_of_mem_replicate {count : Nat} {c : Char} (h : c ∈ List.replicate count '0') : isNumeral c = true := by
  rw [(List.mem_replicate.1 h).2]
  rfl

/-- A decimal is laid out in characters of numbers only. -/
theorem isNumeral_layOut {layout : Decimal.Layout} {d : Decimal} {c : Char} (h : c ∈ d.layOut layout) :
    isNumeral c = true := by
  have digits {c : Char} (h : c ∈ Nat.toDigits 10 d.coefficient) : isNumeral c = true := isNumeral_of_mem_toDigits h
  unfold Decimal.layOut at h
  simp only at h
  split at h
  · split at h
    · simp only [List.mem_append, List.mem_cons, List.not_mem_nil, or_false] at h
      rcases h with (h | h) | rfl | rfl
      · exact digits h
      · exact isNumeral_of_mem_replicate h
      · rfl
      · rfl
    · split at h
      · simp only [List.mem_append, List.mem_cons] at h
        rcases h with h | rfl | h
        · exact digits (List.mem_of_mem_take h)
        · rfl
        · exact digits (List.mem_of_mem_drop h)
      · simp only [List.mem_append, List.mem_cons, List.not_mem_nil, or_false] at h
        rcases h with ((rfl | rfl) | h) | h
        · rfl
        · rfl
        · exact isNumeral_of_mem_replicate h
        · exact digits h
  · simp only [List.mem_append, List.mem_cons] at h
    rcases h with h | rfl | rfl | h
    · split at h
      · cases h
      · next one => exact digits (one ▸ h)
      · next first more several =>
        simp only [List.mem_cons] at h
        rcases h with rfl | rfl | h
        · exact digits (several ▸ List.mem_cons_self)
        · rfl
        · exact digits (several ▸ List.mem_cons_of_mem _ h)
    · rfl
    · split <;> rfl
    · exact isNumeral_of_mem_toDigits h

/-- A decimal is never laid out in an empty text. -/
theorem layOut_ne_nil (layout : Decimal.Layout) (d : Decimal) : d.layOut layout ≠ [] := by
  unfold Decimal.layOut
  simp only
  split
  · split
    · simp
    · split <;> simp
  · simp

/-- A number is written in the characters of numbers. -/
theorem isNumeral_print {n : Number} {c : Char} (h : c ∈ n.print) : isNumeral c = true := by
  have sign {negative : Prop} [Decidable negative] (h : c ∈ if negative then ['-'] else []) : isNumeral c = true := by
    split at h
    · rw [List.mem_singleton.1 h]
      rfl
    · cases h
  cases n with
  | integer value =>
    rcases List.mem_append.1 h with h | h
    · exact sign h
    · exact isNumeral_of_mem_toDigits h
  | float value =>
    rcases List.mem_append.1 h with h | h
    · exact sign h
    · exact isNumeral_layOut h

/-- A number is never written as an empty text. -/
theorem print_number_ne_nil (n : Number) : n.print ≠ [] := by
  cases n with
  | integer value => exact List.append_ne_nil_of_right_ne_nil _ Nat.toDigits_ne_nil
  | float value => exact List.append_ne_nil_of_right_ne_nil _ (layOut_ne_nil _ _)

/-! ## Values -/

/-- Whether a character ends a value that is part of another. -/
def isStop (c : Char) : Bool :=
  c == ',' || c == ']' || c == '\x7d'

/-- A text may stand after a value. -/
def Follows (rest : List Char) : Prop :=
  ∀ c ∈ rest.head?, isStop c = true

theorem follows_cons {c : Char} (stop : isStop c = true) (rest : List Char) : Follows (c :: rest) := by
  intro first h
  rw [List.head?_cons, Option.mem_some_iff] at h
  exact h ▸ stop

/-- Two runs of characters before a stop are one. -/
theorem run_cancel {run run' rest rest' : List Char} (unstopped : ∀ c ∈ run, isStop c = false)
    (unstopped' : ∀ c ∈ run', isStop c = false) (follows : Follows rest) (follows' : Follows rest')
    (h : run ++ rest = run' ++ rest') : run = run' ∧ rest = rest' := by
  induction run generalizing run' with
  | nil =>
    cases run' with
    | nil => exact ⟨rfl, h⟩
    | cons c more =>
      have stop := follows c (by rw [show rest = _ from h]; rfl)
      rw [unstopped' c List.mem_cons_self] at stop
      cases stop
  | cons c run ih =>
    cases run' with
    | nil =>
      have stop := follows' c (by rw [← show _ = rest' from h]; rfl)
      rw [unstopped c List.mem_cons_self] at stop
      cases stop
    | cons c' more =>
      obtain ⟨rfl, later⟩ := List.cons.inj h
      rw [List.forall_mem_cons] at unstopped unstopped'
      obtain ⟨rfl, last⟩ := ih unstopped.2 unstopped'.2 later
      exact ⟨rfl, last⟩

/-- No character of a number ends it. -/
theorem not_isStop_of_isNumeral {c : Char} (h : isNumeral c = true) : isStop c = false := by
  refine Bool.eq_false_iff.2 fun stop => ?_
  simp only [isStop, Bool.or_eq_true, beq_iff_eq] at stop
  rcases stop with (rfl | rfl) | rfl <;> exact absurd h (by decide)

/-- The first character of a value, by which the sort of the value can be seen; numbers have several. -/
def opening? : Json → Option Char
  | null => some 'n'
  | bool true => some 't'
  | bool false => some 'f'
  | num _ => none
  | str _ => some '"'
  | arr _ => some '['
  | obj _ => some '\x7b'

/-- A value begins with its opening, or with a character of a number. -/
theorem print_begins (value : Json) :
    ∃ c rest, print value = c :: rest ∧ (value.opening? = some c ∨ value.opening? = none ∧ isNumeral c = true) := by
  cases value with
  | null => exact ⟨_, _, print.eq_1, .inl rfl⟩
  | bool value => cases value <;> exact ⟨_, _, by rw [print], .inl rfl⟩
  | num n =>
    obtain ⟨c, rest, begins⟩ := List.exists_cons_of_ne_nil (print_number_ne_nil n)
    have numeral : isNumeral c = true := isNumeral_print (by rw [begins]; exact List.mem_cons_self)
    exact ⟨c, rest, by rw [print, begins], .inr ⟨rfl, numeral⟩⟩
  | str s => exact ⟨'"', _, by rw [print, printString, List.cons_append], .inl rfl⟩
  | arr items => exact ⟨'[', _, by rw [print, List.cons_append], .inl rfl⟩
  | obj members => exact ⟨'\x7b', _, by rw [print, List.cons_append], .inl rfl⟩

/-- An opening is no character of a number. -/
theorem not_isNumeral_opening {value : Json} {c : Char} (h : value.opening? = some c) : isNumeral c = false := by
  cases value with
  | num n => cases h
  | bool value => cases value <;> cases h <;> rfl
  | null | str | arr | obj => cases h; rfl

/-- Texts that begin with values begin alike only if the values are of one sort. -/
theorem opening?_cancel {a b : Json} {rest rest' : List Char} (h : print a ++ rest = print b ++ rest') :
    a.opening? = b.opening? := by
  obtain ⟨c, more, begins, first⟩ := print_begins a
  obtain ⟨c', more', begins', second⟩ := print_begins b
  rw [begins, begins', List.cons_append, List.cons_append] at h
  obtain ⟨rfl, -⟩ := List.cons.inj h
  rcases first with first | ⟨first, numeral⟩ <;> rcases second with second | ⟨second, numeral'⟩
  · rw [first, second]
  · rw [not_isNumeral_opening first] at numeral'
    cases numeral'
  · rw [not_isNumeral_opening second] at numeral
    cases numeral
  · rw [first, second]

/-- The name and the text of a member. -/
def memberText (member : String × Json) : String × List Char :=
  (member.1, print member.2)

/-- What follows the first item of an array. -/
def afterItem (rest : List Char) : List Json → List Char
  | [] => ']' :: rest
  | next :: more => ',' :: printItems (next :: more) ++ ']' :: rest

/-- What follows the first member of an object. -/
def afterMember (rest : List Char) : List (String × Json) → List Char
  | [] => '\x7d' :: rest
  | next :: more => ',' :: printMembers (next :: more) ++ '\x7d' :: rest

/-- The text of an array goes on after the first item with a comma or the closing bracket. -/
theorem printItems_cons (item : Json) (items : List Json) (rest : List Char) :
    printItems (item :: items) ++ ']' :: rest = print item ++ afterItem rest items := by
  cases items with
  | nil => rw [printItems, afterItem]
  | cons next more => rw [printItems, afterItem, List.append_assoc]

/-- The text of an object goes on after the first member with a comma or the closing brace. -/
theorem printMembers_cons (name : String) (value : Json) (members : List (String × Json)) (rest : List Char) :
    printMembers ((name, value) :: members) ++ '\x7d' :: rest =
      printString name ++ ':' :: (print value ++ afterMember rest members) := by
  cases members with
  | nil => rw [printMembers, afterMember, List.append_assoc, List.cons_append]
  | cons next more =>
    rw [printMembers, afterMember]
    simp only [List.append_assoc, List.cons_append]

/-- The first item of an array can be seen to end. -/
theorem follows_afterItem (rest : List Char) (items : List Json) : Follows (afterItem rest items) := by
  cases items with
  | nil => exact follows_cons rfl _
  | cons next more => exact follows_cons rfl _

/-- The first member of an object can be seen to end. -/
theorem follows_afterMember (rest : List Char) (members : List (String × Json)) : Follows (afterMember rest members) := by
  cases members with
  | nil => exact follows_cons rfl _
  | cons next more => exact follows_cons rfl _

/-- A value does not begin with the bracket that ends an array. -/
theorem print_append_ne (value : Json) (rest rest' : List Char) : print value ++ rest ≠ ']' :: rest' := by
  intro h
  obtain ⟨c, more, begins, opening | ⟨-, numeral⟩⟩ := print_begins value
  · rw [begins, List.cons_append] at h
    obtain ⟨rfl, -⟩ := List.cons.inj h
    cases value with
    | bool value => cases value <;> cases opening
    | null | num | str | arr | obj => cases opening
  · rw [begins, List.cons_append] at h
    obtain ⟨rfl, -⟩ := List.cons.inj h
    cases numeral

mutual

/-- Where a value ends can be seen from a text that begins with it, and so can its own text. -/
theorem print_cancel : ∀ (a b : Json) {rest rest' : List Char}, Follows rest → Follows rest' →
    print a ++ rest = print b ++ rest' → print a = print b ∧ rest = rest'
  | a, b, rest, rest', follows, follows', h => by
    -- The first character tells of what sort a value is, and so rules out all cases but those of one sort.
    have sort := opening?_cancel h
    cases a with
    | null =>
      cases b with
      | null => exact ⟨rfl, List.append_cancel_left h⟩
      | bool value => cases value <;> cases sort
      | num | str | arr | obj => cases sort
    | bool value =>
      cases b with
      | bool value' =>
        obtain rfl : value = value' := by
          cases value <;> cases value' <;> first | rfl | cases sort
        exact ⟨rfl, List.append_cancel_left h⟩
      | null | num | str | arr | obj => cases value <;> cases sort
    | num n =>
      cases b with
      | num n' =>
        simp only [print] at h ⊢
        exact run_cancel (fun c hc => not_isStop_of_isNumeral (isNumeral_print hc))
          (fun c hc => not_isStop_of_isNumeral (isNumeral_print hc)) follows follows' h
      | bool value => cases value <;> cases sort
      | null | str | arr | obj => cases sort
    | str s =>
      cases b with
      | str s' =>
        simp only [print] at h ⊢
        obtain ⟨rfl, last⟩ := printString_cancel h
        exact ⟨rfl, last⟩
      | bool value => cases value <;> cases sort
      | null | num | arr | obj => cases sort
    | arr items =>
      cases b with
      | arr items' =>
        simp only [print, List.cons_append, List.append_assoc, List.nil_append, List.cons.injEq, true_and] at h ⊢
        obtain ⟨-, rfl⟩ := printItems_cancel items items' h
        exact ⟨congrArg (· ++ [']']) (List.append_cancel_right h), rfl⟩
      | bool value => cases value <;> cases sort
      | null | num | str | obj => cases sort
    | obj members =>
      cases b with
      | obj members' =>
        simp only [print, List.cons_append, List.append_assoc, List.nil_append, List.cons.injEq, true_and] at h ⊢
        obtain ⟨-, rfl⟩ := printMembers_cancel members members' h
        exact ⟨congrArg (· ++ ['\x7d']) (List.append_cancel_right h), rfl⟩
      | bool value => cases value <;> cases sort
      | null | num | str | arr => cases sort

/-- The same holds of the items of an array: how many there are, and the text of each. -/
theorem printItems_cancel : ∀ (items items' : List Json) {rest rest' : List Char},
    printItems items ++ ']' :: rest = printItems items' ++ ']' :: rest' →
      items.map print = items'.map print ∧ rest = rest'
  | [], [], _, _, h => ⟨rfl, (List.cons.inj h).2⟩
  | [], item :: items, rest, rest', h => by
    rw [printItems_cons] at h
    exact absurd h.symm (print_append_ne item _ _)
  | item :: items, [], rest, rest', h => by
    rw [printItems_cons] at h
    exact absurd h (print_append_ne item _ _)
  | item :: items, item' :: items', rest, rest', h => by
    rw [printItems_cons, printItems_cons] at h
    obtain ⟨first, after⟩ := print_cancel item item' (follows_afterItem _ _) (follows_afterItem _ _) h
    cases items with
    | nil =>
      cases items' with
      | nil => exact ⟨congrArg ([·]) first, (List.cons.inj after).2⟩
      | cons next more => cases (List.cons.inj after).1
    | cons next more =>
      cases items' with
      | nil => cases (List.cons.inj after).1
      | cons next' more' =>
        obtain ⟨later, last⟩ := printItems_cancel (next :: more) (next' :: more') (List.cons.inj after).2
        exact ⟨List.cons_eq_cons.2 ⟨first, later⟩, last⟩

/-- And of the members of an object: how many there are, and the name and the text of each. -/
theorem printMembers_cancel : ∀ (members members' : List (String × Json)) {rest rest' : List Char},
    printMembers members ++ '\x7d' :: rest = printMembers members' ++ '\x7d' :: rest' →
      members.map memberText = members'.map memberText ∧ rest = rest'
  | [], [], _, _, h => ⟨rfl, (List.cons.inj h).2⟩
  | [], (name, value) :: members, rest, rest', h => by
    rw [printMembers_cons] at h
    cases (List.cons.inj h).1
  | (name, value) :: members, [], rest, rest', h => by
    rw [printMembers_cons] at h
    cases (List.cons.inj h).1
  | (name, value) :: members, (name', value') :: members', rest, rest', h => by
    rw [printMembers_cons, printMembers_cons] at h
    obtain ⟨rfl, valued⟩ := printString_cancel h
    obtain ⟨first, after⟩ := print_cancel value value' (follows_afterMember _ _) (follows_afterMember _ _)
      (List.cons.inj valued).2
    cases members with
    | nil =>
      cases members' with
      | nil => exact ⟨congrArg (fun text => [(name, text)]) first, (List.cons.inj after).2⟩
      | cons next more => cases (List.cons.inj after).1
    | cons next more =>
      cases members' with
      | nil => cases (List.cons.inj after).1
      | cons next' more' =>
        obtain ⟨later, last⟩ := printMembers_cancel (next :: more) (next' :: more') (List.cons.inj after).2
        exact ⟨List.cons_eq_cons.2 ⟨congrArg (Prod.mk name) first, later⟩, last⟩

end

/-! ## What texts tell -/

section

variable {value : Json}

/-- Values of one text are of one sort. -/
theorem opening?_of_print {a b : Json} (h : print a = print b) : a.opening? = b.opening? :=
  opening?_cancel (congrArg (· ++ []) h)

/-- What has the text of a string is the string. -/
theorem str_of_print {s : String} (h : print (str s) = print value) : value = str s := by
  have sort := opening?_of_print h
  cases value with
  | str s' =>
    simp only [print] at h
    obtain ⟨rfl, -⟩ := printString_cancel (congrArg (· ++ []) h)
    rfl
  | bool value => cases value <;> cases sort
  | null | num | arr | obj => cases sort

/-- What has the text of an array is an array, of items with the same texts. -/
theorem arr_of_print {items : List Json} (h : print (arr items) = print value) :
    ∃ items', value = arr items' ∧ items.map print = items'.map print := by
  have sort := opening?_of_print h
  cases value with
  | arr items' =>
    simp only [print, List.cons_append, List.cons.injEq, true_and] at h
    exact ⟨items', rfl, (printItems_cancel items items' h).1⟩
  | bool value => cases value <;> cases sort
  | null | num | str | obj => cases sort

/-- What has the text of an object is an object, of members with the same names and texts. -/
theorem obj_of_print {members : List (String × Json)} (h : print (obj members) = print value) :
    ∃ members', value = obj members' ∧ members.map memberText = members'.map memberText := by
  have sort := opening?_of_print h
  cases value with
  | obj members' =>
    simp only [print, List.cons_append, List.cons.injEq, true_and] at h
    exact ⟨members', rfl, (printMembers_cancel members members' h).1⟩
  | bool value => cases value <;> cases sort
  | null | num | str | arr => cases sort

/-- The bytes of a value tell its text. -/
theorem print_of_bytes {a b : Json} (h : a.bytes = b.bytes) : print a = print b := by
  have read := congrArg Utf8.decodeChars? h
  unfold bytes at read
  rw [Utf8.decodeChars?_encodeChars, Utf8.decodeChars?_encodeChars] at read
  exact Option.some.inj read

/-- A value is never written in no bytes. -/
theorem bytes_ne_nil (value : Json) : value.bytes ≠ [] := by
  intro none
  obtain ⟨c, rest, begins, -⟩ := print_begins value
  have read := Utf8.decodeChars?_encodeChars (print value)
  rw [show Utf8.encodeChars (print value) = [] from none, begins] at read
  cases read

end

end Json

end ResourceApi
