import SourceTree.Json.Number

/-!
# Skipping a JSON value

Members that a record does not know are checked for their form only. Values can be nested to any
depth, so the brackets that are open are kept on a list and not on the call stack. The form is
stricter than elsewhere about one thing only: behind a comma another element or member must follow,
and what stands there instead is reported as a missing value or key.
-/

namespace SourceTree.Json

/-- A bracket that is still open. -/
inductive Bracket where
  | list
  | object
  deriving DecidableEq, Repr

/-- The cause when the text ends inside a bracket. -/
def Bracket.unfinished : Bracket → Cause
  | .list => .unfinishedList
  | .object => .unfinishedObject

/-- The cause when neither a comma nor the end of a bracket follows. -/
def Bracket.unclosed : Bracket → Cause
  | .list => .missingListEnd
  | .object => .missingObjectEnd

/-- The character that closes a bracket. -/
def Bracket.closer : Bracket → Char
  | .list => ']'
  | .object => '\x7d'

/-- The text behind a value that has no parts, or the bracket that it opens. -/
def skipLeaf : List Char → Except Fault (Option Bracket × List Char)
  | [] => .error (.next .unfinishedValue [])
  | 'n' :: rest => (readWord "ull".toList rest).map (none, ·)
  | 't' :: rest => (readWord "rue".toList rest).map (none, ·)
  | 'f' :: rest => (readWord "alse".toList rest).map (none, ·)
  | '"' :: rest => (skipText rest).map (none, ·)
  | '[' :: rest => .ok (some .list, rest)
  | '\x7b' :: rest => .ok (some .object, rest)
  | '-' :: rest => (skipNumber rest).map (none, ·)
  | symbol :: rest =>
      if isDigit symbol then (skipNumber (symbol :: rest)).map (none, ·)
      else .error (.next .missingValue (symbol :: rest))

/-- The text behind the colon of a member. -/
def readColon (input : List Char) : Except Fault (List Char) :=
  match skipSpace input with
  | ':' :: rest => .ok rest
  | [] => .error (.next .unfinishedObject [])
  | rest => .error (.next .missingColon rest)

/-- The text behind the key and the colon of a member. -/
def skipKey (input : List Char) : Except Fault (List Char) :=
  match skipSpace input with
  | '"' :: rest =>
      match skipText rest with
      | .error fault => .error fault
      | .ok behind => readColon behind
  | [] => .error (.next .unfinishedObject [])
  | rest => .error (.next .keyNotText rest)

section Length

theorem eq_ok_of_map_none {result : Except Fault (List Char)} {bracket : Option Bracket}
    {rest : List Char}
    (success : result.map (Option.none (α := Bracket), ·) = .ok (bracket, rest)) :
    result = .ok rest := by
  cases result with
  | error fault => simp [Except.map] at success
  | ok behind =>
      simp only [Except.map, Except.ok.injEq, Prod.mk.injEq] at success
      rw [success.2]

theorem length_of_skipLeaf {input rest : List Char} {bracket : Option Bracket}
    (success : skipLeaf input = .ok (bracket, rest)) : rest.length < input.length := by
  unfold skipLeaf at success
  split at success
  · simp at success
  · exact Nat.lt_succ_of_le (length_of_readWord (eq_ok_of_map_none success))
  · exact Nat.lt_succ_of_le (length_of_readWord (eq_ok_of_map_none success))
  · exact Nat.lt_succ_of_le (length_of_readWord (eq_ok_of_map_none success))
  · exact Nat.lt_succ_of_lt (length_of_skipText (eq_ok_of_map_none success))
  · simp only [Except.ok.injEq, Prod.mk.injEq] at success
    simp [← success.2]
  · simp only [Except.ok.injEq, Prod.mk.injEq] at success
    simp [← success.2]
  · exact Nat.lt_succ_of_lt (length_of_skipNumber (eq_ok_of_map_none success))
  · split at success
    · exact length_of_skipNumber (eq_ok_of_map_none success)
    · simp at success

theorem length_of_readColon {input rest : List Char} (success : readColon input = .ok rest) :
    rest.length < input.length := by
  have space := length_skipSpace_le input
  unfold readColon at success
  split at success
  next behind shape =>
    simp only [Except.ok.injEq] at success
    rw [shape, List.length_cons, success] at space
    omega
  all_goals simp at success

theorem length_of_skipKey {input rest : List Char} (success : skipKey input = .ok rest) :
    rest.length < input.length := by
  have space := length_skipSpace_le input
  unfold skipKey at success
  split at success
  next behind shape =>
    rw [shape, List.length_cons] at space
    split at success
    · simp at success
    next behind' text =>
      have := length_of_skipText text
      have := length_of_readColon success
      omega
  all_goals simp at success

end Length

/-- The text before the next value of a bracket: behind the key for an object. -/
def skipToValue (bracket : Bracket) (input : List Char) : Except Fault (List Char) :=
  match bracket with
  | .list => .ok input
  | .object => skipKey input

theorem length_of_skipToValue {bracket : Bracket} {input rest : List Char}
    (success : skipToValue bracket input = .ok rest) : rest.length ≤ input.length := by
  cases bracket with
  | list =>
      simp only [skipToValue, Except.ok.injEq] at success
      simp [success]
  | object => exact Nat.le_of_lt (length_of_skipKey success)

mutual

/-- The text behind a value and behind everything that the open brackets still hold. -/
def skipWithin (brackets : List Bracket) (input : List Char) : Except Fault (List Char) :=
  match _leaf : skipLeaf (skipSpace input) with
  | .error fault => .error fault
  | .ok (none, rest) => skipOnward brackets rest
  | .ok (some bracket, rest) =>
      match _next : skipSpace rest with
      | [] => .error (.next bracket.unfinished [])
      | symbol :: behind =>
          if symbol = bracket.closer then skipOnward brackets behind
          else
            match _start : skipToValue bracket (symbol :: behind) with
            | .error fault => .error fault
            | .ok start => skipWithin (bracket :: brackets) start
termination_by input.length
decreasing_by
  all_goals
    have space := length_skipSpace_le input
    have leaf := length_of_skipLeaf _leaf
    have inner := length_skipSpace_le rest
  · omega
  · rw [_next, List.length_cons] at inner
    omega
  · have start := length_of_skipToValue _start
    rw [_next] at inner
    omega

/-- The text behind everything that the open brackets still hold, after one of their values. -/
def skipOnward (brackets : List Bracket) (input : List Char) : Except Fault (List Char) :=
  match brackets with
  | [] => .ok input
  | bracket :: outer =>
      match _next : skipSpace input with
      | [] => .error (.next bracket.unfinished [])
      | symbol :: behind =>
          if symbol = ',' then
            match _start : skipToValue bracket behind with
            | .error fault => .error fault
            | .ok start => skipWithin (bracket :: outer) start
          else if symbol = bracket.closer then skipOnward outer behind
          else .error (.next bracket.unclosed (symbol :: behind))
termination_by input.length
decreasing_by
  all_goals
    have space := length_skipSpace_le input
    rw [_next, List.length_cons] at space
  · have start := length_of_skipToValue _start
    omega
  · omega

end

mutual

theorem length_of_skipWithin {brackets : List Bracket} {input rest : List Char}
    (success : skipWithin brackets input = .ok rest) : rest.length < input.length := by
  have space := length_skipSpace_le input
  rw [skipWithin] at success
  split at success
  · simp at success
  next behind leaf =>
    have shorter := length_of_skipLeaf leaf
    have bound := length_of_skipOnward success
    omega
  next bracket behind leaf =>
    have shorter := length_of_skipLeaf leaf
    split at success
    · simp at success
    next symbol behind' next =>
      have inner : (symbol :: behind').length ≤ behind.length :=
        next ▸ length_skipSpace_le behind
      have tail : behind'.length < behind.length := inner
      split at success
      · have bound := length_of_skipOnward success
        omega
      · split at success
        · simp at success
        next start begins =>
          have first := length_of_skipToValue begins
          have bound := length_of_skipWithin success
          omega
termination_by input.length

theorem length_of_skipOnward {brackets : List Bracket} {input rest : List Char}
    (success : skipOnward brackets input = .ok rest) : rest.length ≤ input.length := by
  rw [skipOnward.eq_def] at success
  split at success
  · simp only [Except.ok.injEq] at success
    simp [success]
  · split at success
    · simp at success
    next symbol behind next =>
      have space : (symbol :: behind).length ≤ input.length := next ▸ length_skipSpace_le input
      have tail : behind.length < input.length := space
      split at success
      · split at success
        · simp at success
        next start begins =>
          have first := length_of_skipToValue begins
          have bound := length_of_skipWithin success
          omega
      · split at success
        · have bound := length_of_skipOnward success
          omega
        · simp at success
termination_by input.length

end

/-- The text behind a value whose content does not matter. -/
def skipValue (input : List Char) : Except Fault (List Char) :=
  skipWithin [] input

theorem length_of_skipValue {input rest : List Char} (success : skipValue input = .ok rest) :
    rest.length < input.length :=
  length_of_skipWithin success

end SourceTree.Json
