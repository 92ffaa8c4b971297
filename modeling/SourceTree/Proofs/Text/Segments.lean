import SourceTree.Text.Segments

/-!
# Laws of cutting

Cutting undoes joining as long as no piece holds the separator, and cutting two texts written one
behind the other glues the last piece of the first to the first piece of the second. Everything
that is known about the segments of a path follows from these two facts.
-/

namespace SourceTree.Text

variable {separator : Char}

theorem join_singleton (piece : List Char) : join separator [piece] = piece := by
  simp [join, List.intercalate]

theorem join_cons_cons (piece next : List Char) (pieces : List (List Char)) :
    join separator (piece :: next :: pieces) =
      piece ++ separator :: join separator (next :: pieces) := by
  simp [join, List.intercalate, List.intersperse]

/-- A text without the separator is a single piece. -/
theorem split_of_not_mem {text : List Char} (absent : separator ∉ text) :
    split separator text = [text] := by
  induction text with
  | nil => rfl
  | cons symbol rest ih =>
      rw [List.mem_cons, not_or] at absent
      rw [split, if_neg (Ne.symm absent.1), ih absent.2]

theorem split_separator_cons (text : List Char) :
    split separator (separator :: text) = [] :: split separator text := by
  rw [split, if_pos rfl]

/-- Cutting two adjacent texts merges the pieces that meet. -/
theorem split_append {front back last first : List Char} {init more : List (List Char)}
    (frontPieces : split separator front = init ++ [last])
    (backPieces : split separator back = first :: more) :
    split separator (front ++ back) = init ++ (last ++ first) :: more := by
  induction front generalizing init last with
  | nil =>
      rw [split, ← List.nil_append [[]]] at frontPieces
      obtain ⟨rfl, lastEq⟩ := List.append_inj' frontPieces rfl
      obtain rfl : last = [] := by simpa using lastEq.symm
      exact backPieces
  | cons symbol rest ih =>
      by_cases same : symbol = separator
      · subst same
        rw [split_separator_cons] at frontPieces
        rw [List.cons_append, split_separator_cons]
        cases init with
        | nil =>
            simp only [List.nil_append, List.cons.injEq] at frontPieces
            exact absurd frontPieces.2 (split_ne_nil symbol rest)
        | cons piece init =>
            simp only [List.cons_append, List.cons.injEq] at frontPieces
            rw [ih frontPieces.2, ← frontPieces.1]
            rfl
      · rw [split, if_neg same] at frontPieces
        rw [List.cons_append, split, if_neg same]
        cases restPieces : split separator rest with
        | nil => exact absurd restPieces (split_ne_nil separator rest)
        | cons piece pieces =>
            rw [restPieces] at frontPieces
            cases init with
            | nil =>
                simp only [List.nil_append, List.cons.injEq] at frontPieces
                obtain ⟨rfl, rfl⟩ := frontPieces
                have glued := ih (show split separator rest = [] ++ [piece] from restPieces)
                rw [glued]
                rfl
            | cons head init =>
                simp only [List.cons_append, List.cons.injEq] at frontPieces
                obtain ⟨rfl, rfl⟩ := frontPieces
                have glued := ih (show split separator rest = (piece :: init) ++ [last] from
                  restPieces)
                rw [glued]
                rfl

/-- The pieces of a text can be told apart at the last one. -/
theorem exists_split_eq_concat (separator : Char) (text : List Char) :
    ∃ init last, split separator text = init ++ [last] :=
  ⟨_, _, (List.dropLast_concat_getLast (split_ne_nil separator text)).symm⟩

/-- Cutting at a separator between two texts cuts each of them. -/
theorem split_append_separator_cons (front back : List Char) :
    split separator (front ++ separator :: back) =
      split separator front ++ split separator back := by
  obtain ⟨init, last, pieces⟩ := exists_split_eq_concat separator front
  rw [split_append pieces (split_separator_cons back), pieces]
  simp

/-- An ending without the separator is the ending of the last piece. -/
theorem exists_split_of_suffix {text ending : List Char} (absent : separator ∉ ending)
    (ends : ending <:+ text) :
    ∃ init last, split separator text = init ++ [last] ∧ ending <:+ last := by
  rcases ends with ⟨front, rfl⟩
  obtain ⟨init, last, pieces⟩ := exists_split_eq_concat separator front
  exact ⟨init, last ++ ending, split_append pieces (split_of_not_mem absent),
    List.suffix_append last ending⟩

/-- Cutting undoes joining. -/
theorem split_join {pieces : List (List Char)} (nonempty : pieces ≠ [])
    (absent : ∀ piece ∈ pieces, separator ∉ piece) :
    split separator (join separator pieces) = pieces := by
  induction pieces with
  | nil => exact absurd rfl nonempty
  | cons piece pieces ih =>
      have head : separator ∉ piece := absent piece (List.mem_cons_self ..)
      cases pieces with
      | nil => rw [join_singleton, split_of_not_mem head]
      | cons next pieces =>
          rw [join_cons_cons, split_append_separator_cons, split_of_not_mem head,
            ih (by simp) (fun other member => absent other (List.mem_cons_of_mem _ member))]
          rfl

/-- The pieces before and behind one of them bring their separators along. -/
theorem join_append_cons (before : List (List Char)) (piece : List Char)
    (after : List (List Char)) :
    join separator (before ++ piece :: after) =
      before.flatMap (· ++ [separator]) ++ (piece ++ after.flatMap (separator :: ·)) := by
  induction before generalizing piece after with
  | nil =>
      induction after generalizing piece with
      | nil => simp [join_singleton]
      | cons next after ih =>
          rw [List.nil_append, join_cons_cons, ← List.nil_append (next :: after), ih]
          simp
  | cons first before ih =>
      cases before with
      | nil =>
          rw [List.singleton_append, join_cons_cons, ← List.nil_append (piece :: after), ih]
          simp
      | cons second before =>
          rw [List.cons_append, List.cons_append, join_cons_cons, ← List.cons_append, ih]
          simp

/-- A word without the separator cannot stand across it. -/
theorem infix_append_separator_cons_iff {word front back : List Char} (absent : separator ∉ word) :
    word <:+: front ++ separator :: back ↔ word <:+: front ∨ word <:+: back := by
  constructor
  · rintro ⟨before, behind, cut⟩
    rw [List.append_assoc] at cut
    rcases List.append_eq_append_iff.1 cut with ⟨part, rfl, early⟩ | ⟨part, rfl, late⟩
    · rcases List.append_eq_append_iff.1 early with ⟨more, rfl, _⟩ | ⟨more, rfl, across⟩
      · exact Or.inl ⟨before, more, by simp⟩
      · cases more with
        | nil => exact Or.inl ⟨before, [], by simp⟩
        | cons symbol more =>
            cases across
            exact absurd (by simp) absent
    · cases part with
      | nil =>
          cases word with
          | nil => exact Or.inl ⟨[], front, rfl⟩
          | cons symbol word =>
              cases late
              exact absurd (by simp) absent
      | cons symbol part =>
          cases late
          exact Or.inr ⟨part, behind, by simp⟩
  · rintro (⟨before, behind, rfl⟩ | ⟨before, behind, rfl⟩)
    · exact ⟨before, behind ++ separator :: back, by simp⟩
    · exact ⟨front ++ separator :: before, behind, by simp⟩

theorem infix_flatMap_append {word last : List Char} {pieces : List (List Char)}
    (absent : separator ∉ word) (inside : word <:+: pieces.flatMap (· ++ [separator]) ++ last) :
    (∃ piece ∈ pieces, word <:+: piece) ∨ word <:+: last := by
  induction pieces with
  | nil => exact Or.inr inside
  | cons first pieces ih =>
      have cut : word <:+: first ++ separator :: (pieces.flatMap (· ++ [separator]) ++ last) := by
        simpa using inside
      rcases (infix_append_separator_cons_iff absent).1 cut with here | behind
      · exact Or.inl ⟨first, by simp, here⟩
      · rcases ih behind with ⟨piece, member, within⟩ | within
        · exact Or.inl ⟨piece, List.mem_cons_of_mem _ member, within⟩
        · exact Or.inr within

/-- Pieces that are left out take their separators with them. -/
theorem join_sublist {kept pieces : List (List Char)}
    (part : kept.Sublist pieces) : (join separator kept).Sublist (join separator pieces) := by
  induction part with
  | slnil => exact List.Sublist.refl _
  | @cons kept pieces piece part ih =>
      cases pieces with
      | nil =>
          cases part
          exact List.nil_sublist _
      | cons next pieces =>
          rw [join_cons_cons]
          exact (ih.cons separator).trans (List.sublist_append_right ..)
  | @cons_cons kept pieces piece part ih =>
      cases kept with
      | nil =>
          cases pieces with
          | nil => exact List.Sublist.refl _
          | cons next pieces =>
              rw [join_singleton, join_cons_cons]
              exact List.sublist_append_left ..
      | cons other kept =>
          cases pieces with
          | nil => cases part
          | cons next pieces =>
              rw [join_cons_cons, join_cons_cons]
              exact List.Sublist.append_left (ih.cons_cons separator) piece

/-- What is in a text and not the separator is in a piece. -/
theorem exists_mem_split_of_mem {text : List Char} {symbol : Char} (member : symbol ∈ text)
    (differs : symbol ≠ separator) : ∃ piece ∈ split separator text, symbol ∈ piece := by
  induction text with
  | nil => cases member
  | cons first rest ih =>
      by_cases same : first = separator
      · subst same
        rw [split_separator_cons]
        rcases List.mem_cons.1 member with rfl | later
        · exact absurd rfl differs
        · rcases ih later with ⟨piece, pieceMem, inPiece⟩
          exact ⟨piece, List.mem_cons_of_mem _ pieceMem, inPiece⟩
      · rw [split, if_neg same]
        cases shape : split separator rest with
        | nil => exact absurd shape (split_ne_nil separator rest)
        | cons head pieces =>
            rcases List.mem_cons.1 member with rfl | later
            · exact ⟨symbol :: head, by simp, by simp⟩
            · rcases ih later with ⟨piece, pieceMem, inPiece⟩
              rw [shape] at pieceMem
              rcases List.mem_cons.1 pieceMem with rfl | behind
              · exact ⟨first :: piece, by simp, List.mem_cons_of_mem _ inPiece⟩
              · exact ⟨piece, List.mem_cons_of_mem _ behind, inPiece⟩

theorem mem_of_mem_of_mem_split {text piece : List Char} {symbol : Char}
    (pieceMem : piece ∈ split separator text) (inPiece : symbol ∈ piece) : symbol ∈ text := by
  rcases List.append_of_mem pieceMem with ⟨before, after, cut⟩
  rw [← join_split separator text, cut, join_append_cons]
  simp [inPiece]

/-- What is in a joined text is in a piece, unless it is the separator. -/
theorem mem_of_mem_join {pieces : List (List Char)} {symbol : Char}
    (member : symbol ∈ join separator pieces) :
    symbol = separator ∨ ∃ piece ∈ pieces, symbol ∈ piece := by
  induction pieces with
  | nil => cases member
  | cons piece pieces ih =>
      cases pieces with
      | nil =>
          rw [join_singleton] at member
          exact Or.inr ⟨piece, by simp, member⟩
      | cons next pieces =>
          rw [join_cons_cons, List.mem_append, List.mem_cons] at member
          rcases member with here | isSeparator | later
          · exact Or.inr ⟨piece, by simp, here⟩
          · exact Or.inl isSeparator
          · rcases ih later with isSeparator | ⟨other, otherMem, inOther⟩
            · exact Or.inl isSeparator
            · exact Or.inr ⟨other, List.mem_cons_of_mem _ otherMem, inOther⟩

/-- Trimming leaves no copy of the trimmed symbol at the front. -/
theorem head?_trimLeft_ne (symbol : Char) (text : List Char) :
    (trimLeft symbol text).head? ≠ some symbol := by
  induction text with
  | nil => simp [trimLeft]
  | cons first rest ih =>
      rw [trimLeft, List.dropWhile_cons]
      split
      next => exact ih
      next differs => simpa using differs

/-- There is nothing to trim behind another symbol. -/
theorem trimLeft_of_head? {symbol : Char} {text : List Char} (other : text.head? ≠ some symbol) :
    trimLeft symbol text = text := by
  cases text with
  | nil => rfl
  | cons first rest =>
      have differs : first ≠ symbol := by simpa using other
      simp [trimLeft, differs]

theorem getLast?_trimRight_ne (symbol : Char) (text : List Char) :
    (trimRight symbol text).getLast? ≠ some symbol := by
  rw [trimRight, List.getLast?_reverse]
  exact head?_trimLeft_ne symbol text.reverse

theorem trimRight_of_getLast? {symbol : Char} {text : List Char}
    (other : text.getLast? ≠ some symbol) : trimRight symbol text = text := by
  rw [← List.head?_reverse] at other
  have kept := trimLeft_of_head? other
  rw [trimLeft] at kept
  rw [trimRight, kept, List.reverse_reverse]

@[simp]
theorem trimRight_concat_self (symbol : Char) (text : List Char) :
    trimRight symbol (text ++ [symbol]) = trimRight symbol text := by
  simp [trimRight]

/-- Trimming stops at another symbol. -/
theorem trimRight_append {symbol : Char} {front : List Char}
    (other : front.getLast? ≠ some symbol) (text : List Char) :
    trimRight symbol (front ++ text) = front ++ trimRight symbol text := by
  have kept : front.reverse.dropWhile (· = symbol) = front.reverse :=
    trimLeft_of_head? (by rwa [List.head?_reverse])
  rw [trimRight, trimRight, List.reverse_append, List.dropWhile_append]
  split
  next empty => simp [kept, List.isEmpty_iff.1 empty]
  next => simp

theorem mem_of_mem_trimRight {symbol other : Char} {text : List Char}
    (member : other ∈ trimRight symbol text) : other ∈ text := by
  rw [trimRight, List.mem_reverse] at member
  exact List.mem_reverse.1 ((List.dropWhile_sublist _).subset member)

/-- Trimming the separator drops only empty pieces. -/
theorem mem_of_mem_split_trimLeft {text piece : List Char}
    (member : piece ∈ split separator (trimLeft separator text)) :
    piece ∈ split separator text := by
  induction text with
  | nil => exact member
  | cons symbol rest ih =>
      by_cases same : symbol = separator
      · subst same
        rw [split_separator_cons]
        refine List.mem_cons_of_mem _ (ih ?_)
        simpa [trimLeft] using member
      · simpa [trimLeft, same] using member

end SourceTree.Text
