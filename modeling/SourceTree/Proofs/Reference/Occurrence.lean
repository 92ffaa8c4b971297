import SourceTree.Proofs.Path.Within
import SourceTree.Proofs.Reference.Pattern

/-!
# Occurrences of references in a text

An occurrence is a range of a text that holds a lead and a quoted relative specifier. The scan
returns the specifiers of occurrences that stand one behind the other and do not overlap. It goes
through the text once, and passes over a symbol only if no occurrence starts there; so each
occurrence that is not returned starts within one that is.

A specifier starts with a dot, so joined onto a directory it is written behind it.
-/

namespace SourceTree.Reference

/-- A range of a text that reads as a reference. -/
structure Occurrence (text : List Char) where
  before : List Char
  lead : List Char
  opening : Char
  specifier : List Char
  closing : Char
  behind : List Char
  whole : text = before ++ (lead ++ opening :: (specifier ++ closing :: behind))
  leads : Leads lead
  opens : isQuote opening = true
  relative : isRelative specifier = true
  quoteFree : IsQuoteFree specifier
  closes : isQuote closing = true

namespace Occurrence

variable {text front rest : List Char}

/-- The symbols in front of an occurrence. -/
def start (occurrence : Occurrence text) : Nat :=
  occurrence.before.length

/-- The symbols up to the end of an occurrence. -/
def stop (occurrence : Occurrence text) : Nat :=
  occurrence.start + (occurrence.lead.length + occurrence.specifier.length + 2)

/-- An occurrence, with more text in front. -/
def behindFront (front : List Char) (occurrence : Occurrence rest) : Occurrence (front ++ rest) :=
  { occurrence with
    before := front ++ occurrence.before
    whole := by rw [List.append_assoc, ← occurrence.whole] }

theorem start_behindFront (occurrence : Occurrence rest) :
    (occurrence.behindFront front).start = front.length + occurrence.start :=
  List.length_append

theorem stop_behindFront (occurrence : Occurrence rest) :
    (occurrence.behindFront front).stop = front.length + occurrence.stop := by
  rw [stop, start_behindFront, Nat.add_assoc]
  rfl

/-- An occurrence that does not start in the front is one of the rest. -/
theorem exists_start_eq (occurrence : Occurrence (front ++ rest))
    (late : front.length ≤ occurrence.start) :
    ∃ inner : Occurrence rest, front.length + inner.start = occurrence.start := by
  have inFront : front <+: occurrence.before := by
    apply List.prefix_of_prefix_length_le (List.prefix_append front rest) _ late
    exact ⟨_, occurrence.whole.symm⟩
  rcases inFront with ⟨before, split⟩
  have whole := occurrence.whole
  rw [← split, List.append_assoc, List.append_cancel_left_eq] at whole
  refine ⟨{ occurrence with before := before, whole := whole }, ?_⟩
  rw [start, start, ← split, List.length_append]

/-- What is found at the front of a text is an occurrence that starts there. -/
theorem exists_of_statement? {found : Found} (success : statement? text = some found) :
    ∃ first : Occurrence text, first.start = 0 ∧ first.specifier = found.1 ∧
      ∃ front, text = front ++ found.2 ∧ first.stop = front.length := by
  rcases exists_leads_of_statement? success with ⟨lead, opening, behind, leads, opens, rfl, read⟩
  rcases specifier?_eq_some_iff.1 read with ⟨relative, quoteFree, closing, closes, rfl⟩
  refine ⟨⟨[], lead, opening, found.1, closing, found.2, rfl, leads, opens, relative, quoteFree,
    closes⟩, rfl, rfl, lead ++ opening :: (found.1 ++ [closing]), by simp, ?_⟩
  simp only [stop, start, List.length_append, List.length_cons, List.length_nil]
  omega

/-- Where an occurrence starts, something is found. -/
theorem isSome_statement? (occurrence : Occurrence text) (first : occurrence.start = 0) :
    (statement? text).isSome = true := by
  have read : specifier? (occurrence.specifier ++ occurrence.closing :: occurrence.behind) =
      some (occurrence.specifier, occurrence.behind) :=
    specifier?_eq_some_iff.2
      ⟨occurrence.relative, occurrence.quoteFree, occurrence.closing, occurrence.closes, rfl⟩
  have found := Reference.isSome_statement? occurrence.leads occurrence.opens read
  have whole := occurrence.whole
  rw [List.eq_nil_of_length_eq_zero first, List.nil_append] at whole
  rwa [whole]

end Occurrence

/-- Occurrences of a text in order that do not overlap, and that every other one overlaps with. -/
structure IsScan {text : List Char} (occurrences : List (Occurrence text)) : Prop where
  ordered : occurrences.Pairwise fun earlier later => earlier.stop ≤ later.start
  covers : ∀ other : Occurrence text,
    ∃ occurrence ∈ occurrences, occurrence.start ≤ other.start ∧ other.start < occurrence.stop

section Scan

variable {front rest : List Char} {occurrences : List (Occurrence rest)}

theorem IsScan.pairwise_behindFront (scan : IsScan occurrences) (front : List Char) :
    (occurrences.map (Occurrence.behindFront front)).Pairwise
      fun earlier later => earlier.stop ≤ later.start := by
  rw [List.pairwise_map]
  apply scan.ordered.imp
  intro earlier later apart
  rw [Occurrence.stop_behindFront, Occurrence.start_behindFront]
  omega

theorem IsScan.covers_behindFront (scan : IsScan occurrences) (other : Occurrence (front ++ rest))
    (late : front.length ≤ other.start) :
    ∃ occurrence ∈ occurrences.map (Occurrence.behindFront front),
      occurrence.start ≤ other.start ∧ other.start < occurrence.stop := by
  rcases other.exists_start_eq late with ⟨inner, same⟩
  rcases scan.covers inner with ⟨occurrence, member, starts, stops⟩
  refine ⟨_, List.mem_map_of_mem member, ?_⟩
  rw [Occurrence.stop_behindFront, Occurrence.start_behindFront]
  omega

/-- Where nothing starts at a symbol, the scan of the rest is one of the whole. -/
theorem IsScan.cons {symbol : Char} (scan : IsScan occurrences)
    (nothing : statement? (symbol :: rest) = none) :
    IsScan (occurrences.map (Occurrence.behindFront [symbol])) := by
  refine ⟨scan.pairwise_behindFront [symbol], fun other => ?_⟩
  apply scan.covers_behindFront
  rw [List.length_singleton, Nat.one_le_iff_ne_zero]
  intro first
  have found := other.isSome_statement? first
  rw [List.singleton_append, nothing] at found
  cases found

/-- An occurrence at the front and the scan of the rest behind it are a scan of the whole. -/
theorem IsScan.append (scan : IsScan occurrences) {first : Occurrence (front ++ rest)}
    (starts : first.start = 0) (stops : first.stop = front.length) :
    IsScan (first :: occurrences.map (Occurrence.behindFront front)) := by
  constructor
  · refine List.Pairwise.cons ?_ (scan.pairwise_behindFront front)
    intro later member
    rcases List.mem_map.1 member with ⟨occurrence, _, rfl⟩
    rw [Occurrence.start_behindFront]
    omega
  · intro other
    by_cases late : front.length ≤ other.start
    · rcases scan.covers_behindFront other late with ⟨occurrence, member, covered⟩
      exact ⟨occurrence, List.mem_cons_of_mem _ member, covered⟩
    · refine ⟨first, List.mem_cons_self, ?_⟩
      omega

/-- The specifiers that are returned are those of a scan. -/
theorem exists_isScan (text : List Char) :
    ∃ occurrences : List (Occurrence text),
      IsScan occurrences ∧ occurrences.map Occurrence.specifier = specifiers text := by
  fun_induction specifiers text with
  | case1 text found success ih =>
      rcases ih with ⟨occurrences, scan, same⟩
      rcases Occurrence.exists_of_statement? success with
        ⟨first, starts, named, front, rfl, stops⟩
      refine ⟨_, scan.append starts stops, ?_⟩
      rw [List.map_cons, List.map_map, named, ← same]
      rfl
  | case2 nothing =>
      refine ⟨[], ⟨List.Pairwise.nil, fun other => ?_⟩, rfl⟩
      have whole := other.whole
      simp at whole
  | case3 symbol rest nothing ih =>
      rcases ih with ⟨occurrences, scan, same⟩
      refine ⟨_, scan.cons nothing, ?_⟩
      rw [List.map_map, ← same]
      rfl

end Scan

section Join

theorem isAbsolute_eq_false_of_isRelative {specifier : List Char}
    (relative : isRelative specifier = true) :
    Path.isAbsolute ⟨String.ofList specifier⟩ = false := by
  rw [Path.isAbsolute_eq_false_iff, String.toList_ofList]
  rcases isRelative_iff.1 relative with ⟨body, _, rfl | rfl⟩ <;> simp

theorem text_join {base tail : Path} (relative : tail.isAbsolute = false) :
    (base.join tail).text = base.text ++ tail.text ∨
      (base.join tail).text = base.text ++ "/" ++ tail.text := by
  rw [Path.join, relative, if_neg Bool.false_ne_true]
  split
  · exact Or.inl rfl
  · exact Or.inr rfl

end Join

/-- What is extracted from a text are the specifiers of its occurrences, from front to back. None of
them replaces a directory that it is joined onto. -/
theorem extract_occurrences (text : String) :
    (∃ occurrences : List (Occurrence text.toList), IsScan occurrences ∧
      occurrences.map (String.ofList ·.specifier) = extract text) ∧
    ∀ specifier ∈ extract text, ∀ directory : Path,
      (directory.join ⟨specifier⟩).isWithin directory = true ∧
        ((directory.join ⟨specifier⟩).text = directory.text ++ specifier ∨
          (directory.join ⟨specifier⟩).text = directory.text ++ "/" ++ specifier) := by
  rcases exists_isScan text.toList with ⟨occurrences, scan, same⟩
  have extracted : occurrences.map (String.ofList ·.specifier) = extract text := by
    rw [extract, ← same, List.map_map]
    rfl
  refine ⟨⟨occurrences, scan, extracted⟩, ?_⟩
  intro specifier member directory
  rw [← extracted] at member
  rcases List.mem_map.1 member with ⟨occurrence, _, rfl⟩
  have relative := isAbsolute_eq_false_of_isRelative occurrence.relative
  exact ⟨Path.isWithin_join relative, text_join relative⟩

/-- A clause that runs over another import, and a call. -/
def mixedText : String :=
  "import 'react'; import a from './b'; require( \"../c\")"

/-- The second specifier is written behind the directory, which it would leave if it were followed. -/
theorem extract_occurrences_mixedText :
    "../c" ∈ extract mixedText ∧
      (∃ occurrences : List (Occurrence mixedText.toList), IsScan occurrences ∧
        occurrences.map (String.ofList ·.specifier) = ["./b", "../c"]) ∧
      (Path.join ⟨"out/src"⟩ ⟨"../c"⟩).isWithin ⟨"out/src"⟩ = true := by
  have extracted : extract mixedText = ["./b", "../c"] := by decide +kernel
  have member : "../c" ∈ extract mixedText := by simp [extracted]
  rcases extract_occurrences mixedText with ⟨⟨occurrences, scan, same⟩, joined⟩
  exact ⟨member, ⟨occurrences, scan, same.trans extracted⟩, (joined "../c" member ⟨"out/src"⟩).1⟩

end SourceTree.Reference
