import HidRig.Proofs.Json.Spelled

/-! # Values are passed over

A value that nothing asks for is passed over whole, however deep its brackets are and whatever
numbers and escapes it has, and the text goes on right after it.

* `Json.skipText_quoted`, `Json.skipNumber_append`: texts in quotes and numbers.
* `Json.skipItems_following`: the items of a bracket, by what is known of each value.
* `Json.skipValue_append`: every value.
-/

namespace HidRig.Json

/-! ## Texts in quotes -/

/-- One round of passing over a text. -/
theorem Piece.skip {piece : Input} (h : Piece piece) (fuel : Nat) (rest : Input) :
    skipChars (fuel + 1) (piece ++ rest) = skipChars fuel rest := by
  cases h with
  | @plain c plain =>
    have control : ¬ c.toNat < 0x20 := Nat.not_lt.mpr plain.not_control
    simp [skipChars, plain.not_quote, plain.not_backslash, control]
  | letter letter =>
    simp [skipChars, skipEscape, escaped?_of_mem _ letter, bind, Except.bind]
  | number number =>
    have mark : escaped? 'u' = none := by decide
    have read := number.read rest
    simp [skipChars, skipEscape, mark, read, Except.map, bind, Except.bind]

theorem Piece.length_pos {piece : Input} (h : Piece piece) : 0 < piece.length := by
  cases h <;> simp

theorem skipChars_pieces {pieces : List Input} (all : ∀ piece ∈ pieces, Piece piece) {fuel : Nat}
    (enough : pieces.flatten.length < fuel) (rest : Input) :
    skipChars fuel (pieces.flatten ++ '"' :: rest) = .ok rest := by
  induction pieces generalizing fuel with
  | nil =>
    obtain ⟨fuel, rfl⟩ := Nat.exists_eq_add_one.mpr enough
    simp [skipChars]
  | cons piece pieces ih =>
    have some := (all piece List.mem_cons_self).length_pos
    rw [List.flatten_cons, List.length_append] at enough
    obtain ⟨fuel, rfl⟩ := Nat.exists_eq_add_one.mpr (Nat.zero_lt_of_lt enough)
    rw [List.flatten_cons, List.append_assoc, (all piece List.mem_cons_self).skip]
    exact ih (fun other member => all other (List.mem_cons_of_mem _ member)) (by omega)

theorem skipText_quoted {text : Input} (quoted : IsText text) (rest : Input) :
    ∃ inner, text ++ rest = '"' :: inner ∧ skipText inner = .ok rest := by
  obtain ⟨pieces, all, rfl⟩ := quoted
  refine ⟨pieces.flatten ++ '"' :: rest, by simp, ?_⟩
  exact skipChars_pieces all (by simp) rest

/-! ## Numbers -/

/-- What may follow a value: nothing, a blank, a comma or the end of a bracket. -/
def Ends (rest : Input) : Prop :=
  ∀ c ∈ rest.head?, isBlank c = true ∨ c = ',' ∨ c = ']' ∨ c = '\x7d'

/-- No text that may follow a value goes on with a number. -/
theorem Ends.other {c : Char} {rest : Input} (ends : Ends (c :: rest)) :
    c.isDigit = false ∧ c ≠ '.' ∧ c ≠ 'e' ∧ c ≠ 'E' := by
  have known : isBlank c = true ∨ c = ',' ∨ c = ']' ∨ c = '\x7d' := ends c rfl
  simp only [isBlank, Bool.or_eq_true, decide_eq_true_eq] at known
  rcases known with ((((rfl | rfl) | rfl) | rfl) | rfl | rfl | rfl) <;> decide

theorem ends_of_gap {gap : Input} (blank : Gap gap) {rest : Input} (ends : Ends rest) :
    Ends (gap ++ rest) := by
  cases gap with
  | nil => exact ends
  | cons c gap =>
    intro d member
    cases member
    exact .inl (blank c List.mem_cons_self)

/-- No digit comes next. -/
def NoDigit (rest : Input) : Prop :=
  ∀ c ∈ rest.head?, c.isDigit = false

theorem Ends.noDigit {rest : Input} (ends : Ends rest) : NoDigit rest := by
  cases rest with
  | nil => exact nofun
  | cons c rest =>
    intro d member
    cases member
    exact ends.other.1

theorem digits_append {text rest : Input} (all : ∀ c ∈ text, c.isDigit = true)
    (stop : NoDigit rest) : digits (text ++ rest) = (text, rest) := by
  have none : rest.takeWhile Char.isDigit = [] ∧ rest.dropWhile Char.isDigit = rest := by
    cases rest with
    | nil => exact ⟨rfl, rfl⟩
    | cons c rest =>
      have other := stop c rfl
      simp [other]
  simp only [digits, List.takeWhile_append_of_pos all, List.dropWhile_append_of_pos all, none.1,
    none.2, List.append_nil]

theorem skipExponent_append {sign text : Input} (signs : sign = [] ∨ sign = ['+'] ∨ sign = ['-'])
    (number : Digits text) {rest : Input} (ends : Ends rest) :
    skipExponent (sign ++ text ++ rest) = .ok rest := by
  have read := digits_append number.all ends.noDigit
  obtain ⟨c, text, rfl⟩ := List.exists_cons_of_ne_nil number.some
  have after : (exponentSign (sign ++ c :: text ++ rest)).2 = c :: text ++ rest := by
    rcases signs with rfl | rfl | rfl
    · have digit := number.all c List.mem_cons_self
      have plus : c ≠ '+' := by rintro rfl; cases digit
      have minus : c ≠ '-' := by rintro rfl; cases digit
      simp [exponentSign, plus, minus]
    · rfl
    · rfl
  rw [skipExponent, after, read]

theorem skipTail_append {exponent : Input} (h : Exponent exponent) {rest : Input}
    (ends : Ends rest) : skipTail (exponent ++ rest) = .ok rest := by
  cases h with
  | none =>
    cases rest with
    | nil => rfl
    | cons c rest =>
      have other := ends.other
      unfold skipTail
      split
      · simp_all
      · simp_all
      · rfl
  | digits marks signs number =>
    have skip := skipExponent_append signs number ends
    rcases marks with rfl | rfl
    · exact skip
    · exact skip

theorem Exponent.noDigit {exponent : Input} (h : Exponent exponent) {rest : Input}
    (ends : Ends rest) : NoDigit (exponent ++ rest) := by
  cases h with
  | none => exact ends.noDigit
  | digits marks =>
    intro c member
    cases member
    rcases marks with rfl | rfl <;> decide

theorem Fraction.noDigit {fraction : Input} (h : Fraction fraction) {rest : Input}
    (stop : NoDigit rest) : NoDigit (fraction ++ rest) := by
  cases h with
  | none => exact stop
  | digits =>
    intro c member
    cases member
    decide

/-- No point comes next. -/
def NoPoint (rest : Input) : Prop :=
  ∀ c ∈ rest.head?, c ≠ '.'

theorem Exponent.noPoint {exponent : Input} (h : Exponent exponent) {rest : Input}
    (ends : Ends rest) : NoPoint (exponent ++ rest) := by
  cases h with
  | none =>
    cases rest with
    | nil => exact nofun
    | cons c rest =>
      intro d member
      cases member
      exact ends.other.2.1
  | digits marks =>
    intro c member
    cases member
    rcases marks with rfl | rfl <;> decide

/-- What comes after the digits before the point. -/
def skipFraction : Input → Except Failure Input
  | '.' :: rest =>
    match digits rest with
    | ([], rest) => .error (.past .badNumber rest)
    | (_, rest) => skipTail rest
  | rest => skipTail rest

theorem skipNumber_whole {whole : Input} (h : Whole whole) {rest : Input} (stop : NoDigit rest) :
    skipNumber (whole ++ rest) = skipFraction rest := by
  cases h with
  | zero =>
    have single : rest.head?.any Char.isDigit = false := by
      cases rest with
      | nil => rfl
      | cons c rest => exact stop c rfl
    simp [skipNumber, single]
    rfl
  | @digits c text number lead =>
    have digit := number.all c List.mem_cons_self
    have read := digits_append (fun d member => number.all d (List.mem_cons_of_mem _ member)) stop
    simp [skipNumber, lead, digit, read]
    rfl

theorem skipFraction_append {fraction exponent : Input} (h : Fraction fraction)
    (third : Exponent exponent) {rest : Input} (ends : Ends rest) :
    skipFraction (fraction ++ (exponent ++ rest)) = .ok rest := by
  have tail := skipTail_append third ends
  cases h with
  | none =>
    have point := third.noPoint ends
    rw [List.nil_append]
    unfold skipFraction
    split
    next same => exact absurd rfl (point '.' (by rw [same]; rfl))
    next => exact tail
  | @digits text number =>
    have read := digits_append number.all (third.noDigit ends)
    obtain ⟨c, text, rfl⟩ := List.exists_cons_of_ne_nil number.some
    rw [List.cons_append, skipFraction, read]
    exact tail

theorem skipNumber_append {text : Input} (h : Magnitude text) {rest : Input} (ends : Ends rest) :
    skipNumber (text ++ rest) = .ok rest := by
  cases h with
  | @parts whole fraction exponent first second third =>
    have stop := second.noDigit (third.noDigit ends)
    rw [List.append_assoc, List.append_assoc, skipNumber_whole first stop,
      skipFraction_append second third ends]

/-! ## Values -/

/-- A number starts with its sign or a digit. -/
theorem Magnitude.head {text : Input} (h : Magnitude text) :
    ∃ c tail, text = c :: tail ∧ c.isDigit = true := by
  cases h with
  | parts first =>
    cases first with
    | zero => exact ⟨'0', _, rfl, by decide⟩
    | digits number => exact ⟨_, _, rfl, number.all _ List.mem_cons_self⟩

/-- A digit is no other character that a value may start with, and no blank. -/
theorem other_of_isDigit {c : Char} (digit : c.isDigit = true) :
    isBlank c = false ∧ c ≠ 'n' ∧ c ≠ 't' ∧ c ≠ 'f' ∧ c ≠ '-' := by
  refine ⟨?_, ?_, ?_, ?_, ?_⟩
  · by_contra blank
    simp only [isBlank, Bool.not_eq_false, Bool.or_eq_true, decide_eq_true_eq] at blank
    rcases blank with ((rfl | rfl) | rfl) | rfl <;> cases digit
  all_goals rintro rfl; cases digit

theorem skipAtom_word {text : String} (h : text ∈ ["null", "true", "false"]) (rest : Input) :
    skipAtom (text.toList ++ rest) = .ok (none, rest) := by
  have start (c : Char) (dark : isBlank c = false) := skipBlanks_of_not_blank dark
  simp only [List.mem_cons, List.not_mem_nil, or_false] at h
  rcases h with rfl | rfl | rfl
  · simp [skipAtom, start 'n' (by decide), word, Except.map]
  · simp [skipAtom, start 't' (by decide), word, Except.map]
  · simp [skipAtom, start 'f' (by decide), word, Except.map]

theorem skipAtom_number {text : Input} (h : IsNumber text) {rest : Input} (ends : Ends rest) :
    skipAtom (text ++ rest) = .ok (none, rest) := by
  cases h with
  | plain magnitude =>
    have skip := skipNumber_append magnitude ends
    obtain ⟨c, tail, rfl, digit⟩ := magnitude.head
    obtain ⟨dark, null, yes, no, minus⟩ := other_of_isDigit digit
    rw [List.cons_append] at skip ⊢
    simp [skipAtom, skipBlanks_of_not_blank dark, null, yes, no, minus, digit, skip, Except.map]
  | minus magnitude =>
    have skip := skipNumber_append magnitude ends
    have start := skipBlanks_of_not_blank (show isBlank '-' = false by decide)
    simp [skipAtom, start, skip, Except.map]

theorem skipAtom_text {text : Input} (h : IsText text) (rest : Input) :
    skipAtom (text ++ rest) = .ok (none, rest) := by
  obtain ⟨inner, same, skip⟩ := skipText_quoted h rest
  have start := skipBlanks_of_not_blank (show isBlank '"' = false by decide)
  simp [same, skipAtom, start, skip, Except.map]

theorem skipAtom_bracket (bracket : Bracket) (rest : Input) :
    skipAtom (bracket.opening :: rest) = .ok (some bracket, rest) := by
  have list := skipBlanks_of_not_blank (show isBlank '[' = false by decide)
  have members := skipBlanks_of_not_blank (show isBlank '\x7b' = false by decide)
  cases bracket <;> simp [skipAtom, Bracket.opening, list, members]

theorem skipAtom_append {gap : Input} (blank : Gap gap) (text : Input) :
    skipAtom (gap ++ text) = skipAtom text := by
  unfold skipAtom
  rw [blank.skip]

/-- A character with which an item may start. -/
structure Opening (c : Char) : Prop where
  dark : isBlank c = false
  not_closing : ∀ bracket : Bracket, c ≠ bracket.closing

theorem IsValue.opens {text : Input} (h : IsValue text) :
    ∃ c tail, text = c :: tail ∧ Opening c := by
  cases h with
  | word word =>
    simp only [List.mem_cons, List.not_mem_nil, or_false] at word
    rcases word with rfl | rfl | rfl
    · exact ⟨'n', _, rfl, by decide, by rintro (_ | _) <;> decide⟩
    · exact ⟨'t', _, rfl, by decide, by rintro (_ | _) <;> decide⟩
    · exact ⟨'f', _, rfl, by decide, by rintro (_ | _) <;> decide⟩
  | number number =>
    cases number with
    | plain magnitude =>
      obtain ⟨c, tail, rfl, digit⟩ := magnitude.head
      refine ⟨c, tail, rfl, (other_of_isDigit digit).1, ?_⟩
      rintro (_ | _) rfl <;> cases digit
    | minus => exact ⟨'-', _, rfl, by decide, by rintro (_ | _) <;> decide⟩
  | text quoted =>
    obtain ⟨pieces, -, rfl⟩ := quoted
    exact ⟨'"', _, rfl, by decide, by rintro (_ | _) <;> decide⟩
  | bracket bracket =>
    refine ⟨bracket.opening, _, rfl, ?_, ?_⟩
    · cases bracket <;> decide
    · cases bracket <;> rintro (_ | _) <;> decide

/-- A value is passed over behind any blanks, in at most two steps for each of its characters. -/
def Passed (text : Input) : Prop :=
  ∀ ⦃gap rest : Input⦄ ⦃fuel : Nat⦄, Gap gap → Ends rest → 2 * text.length ≤ fuel →
    skipSteps fuel (gap ++ (text ++ rest)) = .ok rest

theorem IsValue.length_pos {text : Input} (h : IsValue text) : 0 < text.length := by
  obtain ⟨c, tail, rfl, -⟩ := h.opens
  exact Nat.succ_pos _

theorem passed_of_atom {text : Input} (value : IsValue text)
    (atom : ∀ rest, Ends rest → skipAtom (text ++ rest) = .ok (none, rest)) : Passed text := by
  intro gap rest fuel blank ends enough
  have some := value.length_pos
  obtain ⟨fuel, rfl⟩ := Nat.exists_eq_add_one.mpr (show 0 < fuel by omega)
  rw [skipSteps, skipAtom_append blank, atom rest ends]
  rfl

theorem skipKey_member {key : Input} (quoted : IsText key) {before after : Input}
    (first : Gap before) (second : Gap after) (rest : Input) :
    skipKey (before ++ (key ++ (after ++ ':' :: rest))) = .ok rest := by
  obtain ⟨inner, same, skip⟩ := skipText_quoted quoted (after ++ ':' :: rest)
  rw [same, skipKey, first.skip_cons (by decide)]
  simp [skip, colon, second.skip_cons (show isBlank ':' = false by decide), bind, Except.bind]

/-- What stands before a value in a bracket is passed over, but for blanks. -/
theorem Starts.skip {bracket : Bracket} {start : Input} (h : Starts bracket start) (rest : Input) :
    ∃ gap, Gap gap ∧ bracket.skipStart (start ++ rest) = .ok (gap ++ rest) := by
  cases h with
  | array blank => exact ⟨start, blank, rfl⟩
  | @object before key after gap first quoted second third =>
    refine ⟨gap, third, ?_⟩
    simp only [List.append_assoc, List.cons_append]
    exact skipKey_member quoted first second _

/-- The first item of a bracket is found behind its blanks. -/
theorem Starts.skip_first {bracket : Bracket} {start : Input} (h : Starts bracket start) {c : Char}
    (opening : Opening c) (rest : Input) :
    ∃ d tail gap, skipBlanks (start ++ c :: rest) = d :: tail ∧ d ≠ bracket.closing ∧
      Gap gap ∧ bracket.skipStart (d :: tail) = .ok (gap ++ c :: rest) := by
  cases h with
  | array blank =>
    exact ⟨c, rest, [], blank.skip_cons opening.dark rest, opening.not_closing _, nofun, rfl⟩
  | @object before key after gap first quoted second third =>
    obtain ⟨pieces, -, same⟩ := id quoted
    have read := skipKey_member quoted Gap.nil second (gap ++ c :: rest)
    refine ⟨'"', pieces.flatten ++ ['"'] ++ (after ++ ':' :: (gap ++ c :: rest)), gap, ?_,
      by decide, third, ?_⟩
    · simpa [same] using first.skip_cons (show isBlank '"' = false by decide) _
    · rw [same] at read
      exact read

/-! ## Brackets -/

/-- What is known of an item that is passed over. -/
structure Item.Passes (bracket : Bracket) (item : Item) : Prop where
  starts : Starts bracket item.start
  opens : ∃ c tail, item.value = c :: tail ∧ Opening c
  passed : Passed item.value
  stops : Gap item.stop

theorem ends_closing (bracket : Bracket) (rest : Input) : Ends (bracket.closing :: rest) := by
  intro c member
  cases member
  cases bracket
  · exact .inr (.inr (.inl rfl))
  · exact .inr (.inr (.inr rfl))

theorem ends_comma (rest : Input) : Ends (',' :: rest) := by
  intro c member
  cases member
  exact .inr (.inl rfl)

theorem skipItems_end (bracket : Bracket) (fuel : Nat) (first : Bool) {gap : Input}
    (blank : Gap gap) (rest : Input) :
    skipItems (fuel + 1) bracket first (gap ++ bracket.closing :: rest) = .ok rest := by
  have dark : isBlank bracket.closing = false := by cases bracket <;> decide
  rw [skipItems, blank.skip_cons dark]
  simp

theorem ends_following (bracket : Bracket) (items : List Item) (rest : Input) :
    Ends (following bracket items rest) := by
  cases items with
  | nil => exact ends_closing bracket rest
  | cons item items => exact ends_comma _

/-- The items after the first, each behind a comma. -/
theorem skipItems_following {bracket : Bracket} {items : List Item}
    (known : ∀ item ∈ items, item.Passes bracket) {gap : Input} (blank : Gap gap) {fuel : Nat}
    (enough : 2 * (items.flatMap fun item => ',' :: item.text).length < fuel) (rest : Input) :
    skipItems fuel bracket false (gap ++ following bracket items rest) = .ok rest := by
  induction items generalizing gap fuel with
  | nil =>
    obtain ⟨fuel, rfl⟩ := Nat.exists_eq_add_one.mpr enough
    exact skipItems_end bracket fuel false blank rest
  | cons item items ih =>
    obtain ⟨starts, -, passed, stops⟩ := known item List.mem_cons_self
    simp only [List.flatMap_cons, List.length_append, List.length_cons, Item.length_text] at enough
    obtain ⟨fuel, rfl⟩ := Nat.exists_eq_add_one.mpr (show 0 < fuel by omega)
    have others : skipItems fuel bracket false (item.stop ++ following bracket items rest) =
        .ok rest :=
      ih (fun other member => known other (List.mem_cons_of_mem _ member)) stops (by omega)
    have ends := ends_of_gap stops (ends_following bracket items rest)
    obtain ⟨between, space, start⟩ :=
      starts.skip (item.value ++ (item.stop ++ following bracket items rest))
    have value : skipSteps fuel (between ++ (item.value ++ (item.stop ++ _))) = .ok _ :=
      passed space ends (by omega)
    have comma : ',' ≠ bracket.closing := by cases bracket <;> decide
    rw [following_cons, skipItems, blank.skip_cons (by decide)]
    simp [comma, start, value, others, bind, Except.bind]

theorem skipItems_listed {bracket : Bracket} {items : List Item} {inner : Input}
    (listed : Listed (items.map Item.text) inner)
    (known : ∀ item ∈ items, item.Passes bracket) {fuel : Nat}
    (enough : 2 * inner.length < fuel) (rest : Input) :
    skipItems fuel bracket true (inner ++ bracket.closing :: rest) = .ok rest := by
  obtain ⟨fuel, rfl⟩ := Nat.exists_eq_add_one.mpr (show 0 < fuel by omega)
  cases items with
  | nil =>
    cases listed with
    | none blank => exact skipItems_end bracket fuel true blank rest
  | cons item items =>
    obtain ⟨starts, ⟨c, tail, same, opening⟩, passed, stops⟩ := known item List.mem_cons_self
    have some : item.value.length = tail.length + 1 := by rw [same, List.length_cons]
    cases listed
    rw [List.flatMap_map, List.length_append, Item.length_text] at enough
    have others : skipItems fuel bracket false (item.stop ++ following bracket items rest) =
        .ok rest :=
      skipItems_following (fun other member => known other (List.mem_cons_of_mem _ member)) stops
        (by omega) rest
    have ends := ends_of_gap stops (ends_following bracket items rest)
    obtain ⟨d, front, between, found, other, space, start⟩ :=
      starts.skip_first opening (tail ++ (item.stop ++ following bracket items rest))
    rw [← List.cons_append, ← same] at found start
    have value : skipSteps fuel (between ++ (item.value ++ (item.stop ++ _))) = .ok _ :=
      passed space ends (by omega)
    rw [text_append_following, skipItems, found]
    simp [other, start, value, others, bind, Except.bind]

/-! ## Values of every form -/

theorem IsValue.passed {text : Input} (h : IsValue text) : Passed text := by
  induction h with
  | word word => exact passed_of_atom (.word word) fun rest _ => skipAtom_word word rest
  | number number => exact passed_of_atom (.number number) fun _ ends => skipAtom_number number ends
  | text quoted => exact passed_of_atom (.text quoted) fun rest _ => skipAtom_text quoted rest
  | @bracket bracket items inner listed starts values stops passed =>
    intro gap rest fuel blank ends enough
    simp only [List.length_append, List.length_cons, List.length_nil] at enough
    obtain ⟨fuel, rfl⟩ := Nat.exists_eq_add_one.mpr (show 0 < fuel by omega)
    have known : ∀ item ∈ items, item.Passes bracket := fun item member =>
      ⟨starts item member, (values item member).opens, passed item member, stops item member⟩
    have skip : skipItems fuel bracket true (inner ++ bracket.closing :: rest) = .ok rest :=
      skipItems_listed listed known (by omega) rest
    rw [skipSteps, skipAtom_append blank, List.append_assoc, List.cons_append, skipAtom_bracket]
    exact skip

/-- A value that nothing asks for is passed over whole. -/
theorem skipValue_append {text : Input} (value : IsValue text) {gap rest : Input}
    (blank : Gap gap) (ends : Ends rest) : skipValue (gap ++ (text ++ rest)) = .ok rest := by
  refine value.passed blank ends ?_
  rw [List.length_append, List.length_append]
  omega

end HidRig.Json
