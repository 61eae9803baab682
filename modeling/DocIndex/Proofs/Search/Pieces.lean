import Mathlib.Data.List.SplitBy
import DocIndex.Proofs.Search.Tokens

/-!
# Tokens are the pieces of a text

A text cuts into pieces: its maximal runs of word characters, and each other character on
its own. The cut is `List.splitBy` on "both neighbours are word characters", so it is the one
list of pieces that joins back to the text, holds only such pieces, and never puts two word
runs side by side (`Cuts`, `Cuts.eq_pieces`).

Main statement: `tokenize_keeps_pieces`. The tokens of a text are its pieces less the blank
ones, so they join to the text with its blanks removed; the terms of its tokens are its own
terms, and these are its word runs lower-cased, in order.
-/

namespace DocIndex.Search

open DocIndex.Text

/-! ## Blank characters are not word characters -/

/-- No blank character is a word character. -/
theorem isWordChar_eq_false_of_isBlank {c : Char} (blank : isBlank c = true) :
    isWordChar c = false := by
  obtain ⟨range, member, low, high⟩ := RangeTable.mem_of_contains blank
  -- the blank table holds 29 code points in ten ranges: each is looked up in the word table
  have checked : ∀ range ∈ blankTable.ranges.toList, ∀ k < range.2 + 1 - range.1,
      wordTable.contains (range.1 + k) = false := by
    decide +kernel
  have looked := checked range member (c.toNat - range.1) (by omega)
  rwa [Nat.add_sub_cancel' low] at looked

/-! ## The cut of a text -/

/-- Two neighbouring characters that one word run holds: both are word characters. -/
def bothWord (a b : Char) : Bool :=
  isWordChar a && isWordChar b

/-- The pieces of a text: its maximal runs of word characters, and each other character on
its own, in order. -/
def pieces (chars : List Char) : List (List Char) :=
  chars.splitBy bothWord

/-- A non-empty run of word characters. -/
def IsWordRun (piece : List Char) : Prop :=
  piece ≠ [] ∧ ∀ c ∈ piece, isWordChar c = true

/-- A cut of a text into maximal word runs and single other characters: the pieces join back
to the text, each is a word run or one character that is not a word character, and no two
word runs stand side by side. -/
structure Cuts (chars : List Char) (cut : List (List Char)) : Prop where
  flatten_eq : cut.flatten = chars
  piece : ∀ piece ∈ cut, IsWordRun piece ∨ ∃ c, piece = [c] ∧ isWordChar c = false
  maximal : cut.IsChain fun piece next => ¬ (IsWordRun piece ∧ IsWordRun next)

/-- Characters chained by `bothWord` with at least two of them are all word characters. -/
theorem forall_isWordChar_of_isChain :
    ∀ {a b : Char} {rest : List Char}, (a :: b :: rest).IsChain (fun x y => bothWord x y) →
      ∀ c ∈ a :: b :: rest, isWordChar c = true
  | a, b, [], chained => by
    have linked := (List.isChain_pair.mp chained)
    simp only [bothWord, Bool.and_eq_true] at linked
    simp [linked.1, linked.2]
  | a, b, next :: rest, chained => by
    obtain ⟨linked, later⟩ := List.isChain_cons_cons.mp chained
    simp only [bothWord, Bool.and_eq_true] at linked
    intro c member
    rcases List.mem_cons.mp member with rfl | inLater
    · exact linked.1
    · exact forall_isWordChar_of_isChain later c inLater

/-- Word characters are chained by `bothWord`: a run of them is never cut. -/
theorem isChain_bothWord_of_words {run : List Char} (words : ∀ c ∈ run, isWordChar c = true) :
    run.IsChain (fun x y => bothWord x y) := by
  refine List.Pairwise.isChain (List.pairwise_of_forall_mem_list fun a inRun b inRun' => ?_)
  simp [bothWord, words a inRun, words b inRun']

/-- A piece of the cut is a word run or a single character that is not a word character. -/
theorem isWordRun_or_single_of_mem_pieces {chars piece : List Char}
    (member : piece ∈ pieces chars) :
    IsWordRun piece ∨ ∃ c, piece = [c] ∧ isWordChar c = false := by
  have filled := List.ne_nil_of_mem_splitBy member
  have chained := List.isChain_of_mem_splitBy member
  match piece, filled, chained with
  | [c], _, _ =>
    cases word : isWordChar c
    · exact .inr ⟨c, rfl, word⟩
    · exact .inl ⟨List.cons_ne_nil c [], by simpa using word⟩
  | a :: b :: rest, filled, chained =>
    exact .inl ⟨filled, forall_isWordChar_of_isChain chained⟩

theorem pieces_cuts (chars : List Char) : Cuts chars (pieces chars) where
  flatten_eq := List.flatten_splitBy _ chars
  piece _ member := isWordRun_or_single_of_mem_pieces member
  maximal := by
    refine (List.isChain_getLast_head_splitBy bothWord chars).imp ?_
    rintro piece next ⟨filled, nextFilled, apart⟩ ⟨⟨-, words⟩, ⟨-, nextWords⟩⟩
    simp [bothWord, words _ (List.getLast_mem filled), nextWords _ (List.head_mem nextFilled)]
      at apart

/-- A cut into maximal word runs and single other characters is the cut `pieces` makes. -/
theorem Cuts.eq_pieces {chars : List Char} {cut : List (List Char)} (cuts : Cuts chars cut) :
    cut = pieces chars := by
  have nonempty (piece) (member : piece ∈ cut) : piece ≠ [] := by
    rcases cuts.piece piece member with ⟨filled, -⟩ | ⟨c, rfl, -⟩
    · exact filled
    · exact List.cons_ne_nil c []
  symm
  refine List.splitBy_eq_iff.mpr ⟨cuts.flatten_eq.symm, fun empty => nonempty [] empty rfl, ?_, ?_⟩
  · intro piece member
    rcases cuts.piece piece member with ⟨-, words⟩ | ⟨c, rfl, -⟩
    · exact isChain_bothWord_of_words words
    · exact List.isChain_singleton c
  · refine cuts.maximal.imp_of_mem_imp fun piece next member nextMember apart => ?_
    refine ⟨nonempty piece member, nonempty next nextMember, ?_⟩
    rcases cuts.piece piece member with run | ⟨c, rfl, nonword⟩
    · rcases cuts.piece next nextMember with nextRun | ⟨d, rfl, nonword⟩
      · exact absurd ⟨run, nextRun⟩ apart
      · simp [bothWord, nonword]
    · simp [bothWord, nonword]

/-! ## The scan keeps the pieces that are not blank -/

/-- A run of word characters holds no blank. -/
theorem any_isBlank_eq_false {run : List Char} (words : ∀ c ∈ run, isWordChar c = true) :
    run.any isBlank = false := by
  rw [List.any_eq_false]
  intro c member blank
  exact Bool.false_ne_true ((isWordChar_eq_false_of_isBlank blank).symm.trans (words c member))

/-- A run of word characters is one piece, or none when it is empty. -/
theorem pieces_of_words {run : List Char} (words : ∀ c ∈ run, isWordChar c = true) :
    pieces run = if run = [] then [] else [run] := by
  split
  · rename_i empty
    simp [pieces, empty]
  · rename_i filled
    exact List.splitBy_of_isChain filled (isChain_bothWord_of_words words)

/-- A character that is not a word character is a piece of its own, between the pieces
before it and those after it. -/
theorem pieces_append_nonword {c : Char} (nonword : isWordChar c = false) (xs ys : List Char) :
    pieces (xs ++ c :: ys) = pieces xs ++ [c] :: pieces ys := by
  have before : ∀ x ∈ xs.getLast?, bothWord x c = false := by
    simp [bothWord, nonword]
  have after : ∀ x ∈ [c].getLast?, ∀ y ∈ ys.head?, bothWord x y = false := by
    simp [bothWord, nonword]
  rw [pieces, List.splitBy_append_cons ys before, ← List.singleton_append,
    List.splitBy_append after]
  rfl

/-- The scan from a run of word characters keeps the pieces of the run followed by the rest,
the blank ones left out. -/
theorem scanTokens_eq_pieces :
    ∀ (chars run : List Char), (∀ c ∈ run, isWordChar c = true) →
      scanTokens run chars = (pieces (run.reverse ++ chars)).filter fun piece => !piece.any isBlank
  | [], run, words => by
    have reversed : ∀ c ∈ run.reverse, isWordChar c = true := by simpa using words
    have noBlank : run.reverse.any isBlank = false := any_isBlank_eq_false reversed
    rw [scanTokens_nil, List.append_nil, pieces_of_words reversed]
    by_cases empty : run = []
    · subst empty
      rfl
    · simp [empty, noBlank]
  | c :: rest, run, words => by
    cases word : isWordChar c
    · -- the run ends at `c`, which is a piece of its own, dropped when blank
      rw [scanTokens_cons_of_nonword word, pieces_append_nonword word,
        scanTokens_eq_pieces [] run words, scanTokens_eq_pieces rest [] (by simp)]
      cases blank : isBlank c <;> simp [blank]
    · rw [scanTokens_cons_of_word word, scanTokens_eq_pieces rest (c :: run) ?_]
      · simp
      · intro d member
        rcases List.mem_cons.mp member with rfl | old
        · exact word
        · exact words d old

/-- The tokens of a text are its pieces that are not blank. -/
theorem tokenize_eq_pieces (s : String) :
    tokenize s = ((pieces s.toList).filter fun piece => !piece.any isBlank).map String.ofList := by
  simp [tokenize, scanTokens_eq_pieces s.toList [] (by simp)]

/-- Leaving out the blank pieces of a cut leaves out exactly the blank characters. -/
theorem flatten_filter_blank :
    ∀ cut : List (List Char),
      (∀ piece ∈ cut, IsWordRun piece ∨ ∃ c, piece = [c] ∧ isWordChar c = false) →
        (cut.filter fun piece => !piece.any isBlank).flatten =
          cut.flatten.filter fun c => !isBlank c
  | [], _ => rfl
  | piece :: rest, kinds => by
    have restKinds := fun other member => kinds other (List.mem_cons_of_mem piece member)
    rcases kinds piece List.mem_cons_self with ⟨-, words⟩ | ⟨c, rfl, -⟩
    · -- a word run holds no blank: it is kept whole
      have kept : (piece.filter fun c => !isBlank c) = piece :=
        List.filter_eq_self.mpr fun c member => by
          simp [(any_isBlank_eq_false words ▸ List.any_eq_false.mp) rfl c member]
      simp [any_isBlank_eq_false words, kept, flatten_filter_blank rest restKinds]
    · cases blank : isBlank c <;> simp [blank, flatten_filter_blank rest restKinds]

/-- The tokens of a text join to the text with its blank characters removed. -/
theorem join_tokenize (s : String) :
    String.join (tokenize s) = String.ofList (s.toList.filter fun c => !isBlank c) := by
  have kinds := (pieces_cuts s.toList).piece
  rw [← String.toList_inj, String.toList_ofList, tokenize_eq_pieces, String.toList_join,
    List.flatMap_map]
  simp only [String.toList_ofList, List.flatMap_id']
  rw [flatten_filter_blank _ kinds, (pieces_cuts s.toList).flatten_eq]

/-- The terms of a text are its word runs lower-cased, in order. -/
theorem terms_eq_wordRuns (s : String) :
    terms [s] =
      ((pieces s.toList).filter fun piece => piece.all isWordChar).map (lower ∘ String.ofList) := by
  rw [terms, List.flatMap_singleton, tokenize_eq_pieces, List.filter_map, List.map_map,
    List.filter_filter]
  congr 1
  refine List.filter_congr fun piece member => ?_
  rcases (pieces_cuts s.toList).piece piece member with ⟨filled, words⟩ | ⟨c, rfl, nonword⟩
  · have allWords : piece.all isWordChar = true := List.all_eq_true.mpr words
    simp [isWordRun, filled, allWords, any_isBlank_eq_false words]
  · simp [isWordRun, nonword]

/-- Tokens are lossless and agree with terms: the tokens of a text are its pieces (its maximal
word runs and each other character) less the blank ones, so they join to the text with its
blanks removed; the terms of the tokens are the terms of the text, which are its word runs
lower-cased, in order. -/
theorem tokenize_keeps_pieces (s : String) :
    Cuts s.toList (pieces s.toList) ∧
    tokenize s = ((pieces s.toList).filter fun piece => !piece.any isBlank).map String.ofList ∧
    String.join (tokenize s) = String.ofList (s.toList.filter fun c => !isBlank c) ∧
    terms (tokenize s) = terms [s] ∧
    terms [s] =
      ((pieces s.toList).filter fun piece => piece.all isWordChar).map (lower ∘ String.ofList) :=
  ⟨pieces_cuts s.toList, tokenize_eq_pieces s, join_tokenize s, terms_tokenize s,
    terms_eq_wordRuns s⟩

end DocIndex.Search
