import SourceTree.Json.Skip

/-!
# Reading values of a known shape

A reader takes a value of one shape from the front of a text and leaves the rest. Whoever succeeds
has read at least one character; that is part of the type, so lists and records can be read by
recursion on what is left.

A record is read from an object whose members may stand in any order, with members that the record
does not know skipped. It can also be written as the list of its field values in order. A member
that occurs twice or is missing is reported where reading of the whole record stopped, behind its
closing bracket if that could be reached.
-/

namespace SourceTree.Json

/-- Reads a value from the front of a text. -/
structure Reader (α : Type) where
  read : List Char → Except Fault (α × List Char)
  /-- Something is always read. -/
  shrinks : ∀ {input value rest}, read input = .ok (value, rest) → rest.length < input.length

/-- The fault for a value of another kind than `expected`. A value of a kind with a text of its
own is read first, so its faults come before. -/
def misfit (expected : String) : List Char → Fault
  | [] => .next .unfinishedValue []
  | 'n' :: rest =>
      match readWord "ull".toList rest with
      | .error fault => fault
      | .ok behind => .here (.wrongKind .null expected) behind
  | 't' :: rest =>
      match readWord "rue".toList rest with
      | .error fault => fault
      | .ok behind => .here (.wrongKind (.boolean true) expected) behind
  | 'f' :: rest =>
      match readWord "alse".toList rest with
      | .error fault => fault
      | .ok behind => .here (.wrongKind (.boolean false) expected) behind
  | '-' :: rest =>
      match readNumber false rest with
      | .error fault => fault
      | .ok (number, behind) => .here (.wrongKind (.number number) expected) behind
  | '"' :: rest =>
      match readText rest with
      | .error fault => fault
      | .ok (text, behind) => .here (.wrongKind (.text text) expected) behind
  | '[' :: rest => .here (.wrongKind .list expected) ('[' :: rest)
  | '\x7b' :: rest => .here (.wrongKind .object expected) ('\x7b' :: rest)
  | symbol :: rest =>
      if isDigit symbol then
        match readNumber true (symbol :: rest) with
        | .error fault => fault
        | .ok (number, behind) => .here (.wrongKind (.number number) expected) behind
      else .next .missingValue (symbol :: rest)

namespace Reader

variable {α β : Type}

/-- A text value. -/
def readTextValue (expected : String) (input : List Char) : Except Fault (String × List Char) :=
  match skipSpace input with
  | '"' :: rest => readText rest
  | rest => .error (misfit expected rest)

theorem length_of_readTextValue {expected : String} {input rest : List Char} {value : String}
    (success : readTextValue expected input = .ok (value, rest)) : rest.length < input.length := by
  have space := length_skipSpace_le input
  unfold readTextValue at success
  split at success
  next behind shape =>
    have := length_of_readText success
    rw [shape, List.length_cons] at space
    omega
  next => simp at success

/-- Reads a text value; `expected` says in messages what was asked for. -/
def text (expected : String) : Reader String where
  read := readTextValue expected
  shrinks := length_of_readTextValue

/-- A value passed through a function. -/
def map (f : α → β) (reader : Reader α) : Reader β where
  read input := (reader.read input).map fun (value, rest) => (f value, rest)
  shrinks := by
    intro input value rest success
    cases shape : reader.read input with
    | error fault => simp [shape, Except.map] at success
    | ok result =>
        obtain ⟨value', rest'⟩ := result
        simp only [shape, Except.map, Except.ok.injEq, Prod.mk.injEq] at success
        rw [← success.2]
        exact reader.shrinks shape

/-- A value or `null`. -/
def readOptional (reader : Reader α) (input : List Char) :
    Except Fault (Option α × List Char) :=
  match skipSpace input with
  | 'n' :: rest =>
      match readWord "ull".toList rest with
      | .error fault => .error fault
      | .ok behind => .ok (none, behind)
  | rest => (reader.read rest).map fun (value, behind) => (some value, behind)

theorem length_of_readOptional {reader : Reader α} {input rest : List Char} {value : Option α}
    (success : readOptional reader input = .ok (value, rest)) : rest.length < input.length := by
  have space := length_skipSpace_le input
  unfold readOptional at success
  split at success
  next behind shape =>
    rw [shape, List.length_cons] at space
    split at success
    · simp at success
    next word =>
      have := length_of_readWord word
      simp only [Except.ok.injEq, Prod.mk.injEq] at success
      rw [← success.2]
      omega
  next =>
    cases shape : reader.read (skipSpace input) with
    | error fault => simp [shape, Except.map] at success
    | ok result =>
        have := reader.shrinks shape
        simp only [shape, Except.map, Except.ok.injEq, Prod.mk.injEq] at success
        rw [← success.2]
        omega

/-- Reads a value, or `null` as none. -/
def optional (reader : Reader α) : Reader (Option α) where
  read := readOptional reader
  shrinks := length_of_readOptional

/-- Where the next element of a list starts, or none where its closing bracket stands. A comma
must stand before every element but the first. -/
def nextElement (isFirst : Bool) (input : List Char) : Except Fault (Option (List Char)) :=
  match skipSpace input with
  | [] => .error (.next .unfinishedList [])
  | ']' :: _ => .ok none
  | symbol :: rest =>
      if isFirst then .ok (some (symbol :: rest))
      else if symbol = ',' then
        match skipSpace rest with
        | [] => .error (.next .unfinishedValue [])
        | ']' :: behind => .error (.next .trailingComma (']' :: behind))
        | start => .ok (some start)
      else .error (.next .missingListEnd (symbol :: rest))

theorem length_of_nextElement {isFirst : Bool} {input start : List Char}
    (success : nextElement isFirst input = .ok (some start)) : start.length ≤ input.length := by
  have space := length_skipSpace_le input
  unfold nextElement at success
  split at success
  · simp at success
  · simp at success
  next symbol rest _ shape =>
    rw [shape] at space
    split at success
    · simp only [Except.ok.injEq, Option.some.injEq] at success
      rw [← success]
      exact space
    · split at success
      · have inner := length_skipSpace_le rest
        rw [List.length_cons] at space
        split at success
        · simp at success
        · simp at success
        · simp only [Except.ok.injEq, Option.some.injEq] at success
          rw [← success]
          omega
      · simp at success

/-- The elements of a list from the one that comes next, appended to the reversed list
`done`. The rest starts with the closing bracket. -/
def readElements (reader : Reader α) (done : List α) (input : List Char) :
    Except Fault (List α × List Char) :=
  match _next : nextElement done.isEmpty input with
  | .error fault => .error fault
  | .ok none => .ok (done.reverse, input)
  | .ok (some start) =>
      match _element : reader.read start with
      | .error fault => .error fault
      | .ok (value, rest) => readElements reader (value :: done) rest
termination_by input.length
decreasing_by
  have := length_of_nextElement _next
  have := reader.shrinks _element
  omega

theorem length_of_readElements {reader : Reader α} {done values : List α} {input rest : List Char}
    (success : readElements reader done input = .ok (values, rest)) :
    rest.length ≤ input.length := by
  fun_induction readElements reader done input with
  | case1 => simp at success
  | case2 =>
      simp only [Except.ok.injEq, Prod.mk.injEq] at success
      simp [success.2]
  | case3 => simp at success
  | case4 done input start next value behind element ih =>
      have := ih success
      have := length_of_nextElement next
      have := reader.shrinks element
      omega

/-- Where reading stands after an attempt to close a list. -/
def afterListEnd (input : List Char) : List Char :=
  match skipSpace input with
  | ']' :: rest => rest
  | ',' :: rest => skipSpace rest
  | rest => rest

/-- The text behind the closing bracket of a list. -/
def closeList (input : List Char) : Except Fault (List Char) :=
  match skipSpace input with
  | ']' :: rest => .ok rest
  | ',' :: rest =>
      match skipSpace rest with
      | ']' :: behind => .error (.next .trailingComma (']' :: behind))
      | behind => .error (.next .trailingText behind)
  | [] => .error (.next .unfinishedList [])
  | rest => .error (.next .trailingText rest)

theorem length_of_closeList {input rest : List Char} (success : closeList input = .ok rest) :
    rest.length ≤ input.length := by
  have space := length_skipSpace_le input
  unfold closeList at success
  split at success
  next behind shape =>
    simp only [Except.ok.injEq] at success
    rw [shape, List.length_cons, success] at space
    omega
  next => split at success <;> simp at success
  all_goals simp at success

/-- A list of values. -/
def readList (reader : Reader α) (input : List Char) : Except Fault (List α × List Char) :=
  match skipSpace input with
  | '[' :: rest =>
      match readElements reader [] rest with
      | .error fault => .error fault
      | .ok (values, behind) => (closeList behind).map (values, ·)
  | rest => .error (misfit "a sequence" rest)

theorem length_of_readList {reader : Reader α} {input rest : List Char} {values : List α}
    (success : readList reader input = .ok (values, rest)) : rest.length < input.length := by
  have space := length_skipSpace_le input
  unfold readList at success
  split at success
  next behind shape =>
    rw [shape, List.length_cons] at space
    split at success
    · simp at success
    next behind' elements =>
      have := length_of_readElements elements
      cases closing : closeList behind' with
      | error fault => simp [closing, Except.map] at success
      | ok behind'' =>
          have := length_of_closeList closing
          simp only [closing, Except.map, Except.ok.injEq, Prod.mk.injEq] at success
          rw [← success.2]
          omega
  next => simp at success

/-- Reads a list whose elements are all read the same way. -/
def list (reader : Reader α) : Reader (List α) where
  read := readList reader
  shrinks := length_of_readList

end Reader

end SourceTree.Json
