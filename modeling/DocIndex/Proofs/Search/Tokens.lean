import Mathlib.Data.List.Chain
import DocIndex.Search.Ranking

/-!
# Tokens of joined texts

A scan flushes its word run at every character that is not a word character, so where two
texts meet at such a character the tokens of the joined text are the tokens of the one
followed by those of the other. Every token is a word run or a lone punctuation character,
and scans back to itself: the terms of a text's tokens are the terms of the text.

Search keys are lists of pieces joined into one path. A key is separated when of two
neighbouring pieces one is a separator, a non-empty piece without word characters such as
`.` or `#`: no word run then crosses a piece boundary, and the query made of the joined
path has exactly the key's terms (`queryTerms_join`).
-/

namespace DocIndex.Search

open DocIndex.Text

/-! ## Scanning across a boundary -/

/-- At the end the run read so far, if any, is the last token. -/
@[simp]
theorem scanTokens_nil (run : List Char) :
    scanTokens run [] = if run.isEmpty then [] else [run.reverse] := by
  simp [scanTokens]

/-- A word character extends the run. -/
theorem scanTokens_cons_of_word {c : Char} (word : isWordChar c = true) (run rest : List Char) :
    scanTokens run (c :: rest) = scanTokens (c :: run) rest := by
  simp [scanTokens, word]

/-- Any other character flushes the run, is a token of its own unless it is blank, and
the scan goes on from an empty run. -/
theorem scanTokens_cons_of_nonword {c : Char} (nonword : isWordChar c = false)
    (run rest : List Char) :
    scanTokens run (c :: rest) =
      scanTokens run [] ++ (if isBlank c then [] else [[c]]) ++ scanTokens [] rest := by
  cases blank : isBlank c <;> cases run <;> simp [scanTokens, nonword, blank]

/-- A character that is not a word character ends the run before it, whatever follows. -/
theorem scanTokens_append_of_nonword {c : Char} (nonword : isWordChar c = false)
    (ys : List Char) :
    ∀ (xs run : List Char),
      scanTokens run (xs ++ c :: ys) = scanTokens run xs ++ scanTokens [] (c :: ys)
  | [], run => by
    simp [scanTokens_cons_of_nonword nonword, scanTokens_nil]
  | x :: xs, run => by
    rw [List.cons_append]
    cases word : isWordChar x
    · rw [scanTokens_cons_of_nonword word, scanTokens_cons_of_nonword word,
        scanTokens_append_of_nonword nonword ys xs []]
      simp only [List.append_assoc]
    · rw [scanTokens_cons_of_word word, scanTokens_cons_of_word word,
        scanTokens_append_of_nonword nonword ys xs (x :: run)]

/-- From an empty run, a character that is not a word character is a scan of its own. -/
theorem scanTokens_nil_cons_of_nonword {c : Char} (nonword : isWordChar c = false)
    (ys : List Char) : scanTokens [] (c :: ys) = scanTokens [] [c] ++ scanTokens [] ys := by
  simp [scanTokens_cons_of_nonword nonword, scanTokens_nil]

/-- Two character lists meet at a boundary no word run crosses: the last character of the
first or the first of the second is not a word character. -/
def Boundary (xs ys : List Char) : Prop :=
  (∀ c ∈ xs.getLast?, isWordChar c = false) ∨ (∀ c ∈ ys.head?, isWordChar c = false)

/-- Scanning two lists that meet at a boundary scans each on its own. -/
theorem scanTokens_append {xs ys : List Char} (boundary : Boundary xs ys) :
    scanTokens [] (xs ++ ys) = scanTokens [] xs ++ scanTokens [] ys := by
  rcases boundary with last | first
  · rcases List.eq_nil_or_concat xs with rfl | ⟨init, c, rfl⟩
    · simp [scanTokens]
    · have nonword : isWordChar c = false := last c (by simp)
      calc scanTokens [] (init.concat c ++ ys)
          = scanTokens [] init ++ scanTokens [] (c :: ys) := by
            rw [List.concat_eq_append, List.append_assoc, List.singleton_append,
              scanTokens_append_of_nonword nonword]
        _ = scanTokens [] init ++ scanTokens [] [c] ++ scanTokens [] ys := by
            rw [scanTokens_nil_cons_of_nonword nonword, List.append_assoc]
        _ = scanTokens [] (init.concat c) ++ scanTokens [] ys := by
            rw [List.concat_eq_append, scanTokens_append_of_nonword nonword [] init]
  · cases ys with
    | nil => simp [scanTokens]
    | cons c ys => exact scanTokens_append_of_nonword (first c rfl) ys xs []

/-- Texts that meet at a boundary tokenize apart. -/
theorem tokenize_append {a b : String} (boundary : Boundary a.toList b.toList) :
    tokenize (a ++ b) = tokenize a ++ tokenize b := by
  simp [tokenize, String.toList_append, scanTokens_append boundary]

/-! ## Tokens scan back to themselves -/

/-- A run of word characters only extends the run. -/
theorem scanTokens_of_words :
    ∀ (word run : List Char), (∀ c ∈ word, isWordChar c = true) →
      scanTokens run word = scanTokens (word.reverse ++ run) []
  | [], _, _ => rfl
  | c :: rest, run, words => by
    rw [scanTokens_cons_of_word (words c List.mem_cons_self),
      scanTokens_of_words rest (c :: run) fun d member => words d (List.mem_cons_of_mem _ member)]
    simp

/-- A non-empty word run is one token. -/
theorem scanTokens_word {word : List Char} (nonempty : word ≠ [])
    (words : ∀ c ∈ word, isWordChar c = true) : scanTokens [] word = [word] := by
  rw [scanTokens_of_words word [] words]
  simp [scanTokens, nonempty]

/-- The run flushed at the end, if any, is one token. -/
theorem scanTokens_flushed_token {run : List Char} (words : ∀ c ∈ run, isWordChar c = true) :
    ∀ token ∈ scanTokens run [], scanTokens [] token = [token] := by
  intro token member
  unfold scanTokens at member
  split at member
  · cases member
  · rename_i filled
    rw [List.mem_singleton] at member
    subst member
    exact scanTokens_word (by simpa using filled) (by simpa using words)

/-- Each token a scan gives, from a run of word characters, scans back to itself: it is a
word run or a lone character that is neither a word character nor blank. -/
theorem scanTokens_token :
    ∀ (chars run : List Char), (∀ c ∈ run, isWordChar c = true) →
      ∀ token ∈ scanTokens run chars, scanTokens [] token = [token]
  | [], _, words => scanTokens_flushed_token words
  | c :: rest, run, words => by
    intro token member
    cases word : isWordChar c
    · rw [scanTokens_cons_of_nonword word] at member
      rcases List.mem_append.mp member with front | later
      · rcases List.mem_append.mp front with flushed | lone
        · exact scanTokens_flushed_token words token flushed
        · split at lone
          · cases lone
          · rename_i notBlank
            rw [List.mem_singleton] at lone
            subst lone
            simp [scanTokens_cons_of_nonword word, notBlank, scanTokens_nil]
      · exact scanTokens_token rest [] (by simp) token later
    · rw [scanTokens_cons_of_word word] at member
      refine scanTokens_token rest (c :: run) (fun d inRun => ?_) token member
      rcases List.mem_cons.mp inRun with rfl | old
      · exact word
      · exact words d old

/-- A token of a text tokenizes to itself. -/
theorem tokenize_of_mem_tokenize {text token : String} (member : token ∈ tokenize text) :
    tokenize token = [token] := by
  obtain ⟨chars, inScan, rfl⟩ := List.mem_map.mp member
  simp [tokenize, scanTokens_token text.toList [] (by simp) chars inScan]

/-- The terms of a text's tokens are the terms of the text. -/
theorem terms_tokenize (text : String) : terms (tokenize text) = terms [text] := by
  have retokenized : ∀ token ∈ tokenize text,
      ((tokenize token).filter isWordRun).map lower = ([token].filter isWordRun).map lower := by
    intro token member
    rw [tokenize_of_mem_tokenize member]
  rw [terms, List.flatMap_congr retokenized, terms, List.flatMap_singleton]
  induction tokenize text with
  | nil => rfl
  | cons token rest ih =>
    rw [List.flatMap_cons, ih]
    by_cases word : isWordRun token <;> simp [word]

/-! ## Separated keys -/

/-- A key piece that no word run crosses: it is not empty and holds no word character. -/
def IsSeparator (piece : String) : Prop :=
  piece ≠ "" ∧ ∀ c ∈ piece.toList, isWordChar c = false

-- the characters are checked one by one, never by a search over all characters
instance : DecidablePred IsSeparator :=
  fun piece => @instDecidableAnd _ _ inferInstance
    (List.decidableBAll (fun c => isWordChar c = false) piece.toList)

/-- A key whose pieces no word run crosses: of two neighbouring pieces one is a separator. -/
def Separated (key : List String) : Prop :=
  key.IsChain fun piece next => IsSeparator piece ∨ IsSeparator next

instance : DecidablePred Separated :=
  fun key => inferInstanceAs (Decidable (List.IsChain _ key))

theorem isSeparator_dot : IsSeparator "." := by
  decide +kernel

theorem isSeparator_hash : IsSeparator "#" := by
  decide +kernel

theorem IsSeparator.boundary_left {piece : String} (separator : IsSeparator piece)
    (ys : List Char) : Boundary piece.toList ys :=
  .inl fun c last => separator.2 c (List.mem_of_getLast? last)

theorem IsSeparator.boundary_right {piece : String} (separator : IsSeparator piece)
    (xs ys : List Char) : Boundary xs (piece.toList ++ ys) := by
  have filled : piece.toList ≠ [] := by simpa using separator.1
  refine .inr fun c first => separator.2 c ?_
  rw [List.head?_append_of_ne_nil _ filled] at first
  exact List.mem_of_mem_head? first

/-- A separated key tokenizes piece by piece once joined. -/
theorem tokenize_join : ∀ {key : List String}, Separated key →
    tokenize (String.join key) = key.flatMap tokenize
  | [], _ => by simp [tokenize, scanTokens_nil]
  | [piece], _ => by simp
  | piece :: next :: rest, separated => by
    obtain ⟨apart, separatedRest⟩ := List.isChain_cons_cons.mp separated
    have boundary : Boundary piece.toList (String.join (next :: rest)).toList := by
      rcases apart with left | right
      · exact left.boundary_left _
      · rw [String.join_cons, String.toList_append]
        exact right.boundary_right _ _
    rw [String.join_cons, tokenize_append boundary, tokenize_join separatedRest,
      List.flatMap_cons]
    rfl

/-- The query written as a separated key's joined path has exactly the key's terms. -/
theorem queryTerms_join {key : List String} (separated : Separated key) :
    queryTerms (String.join key) = terms key := by
  rw [queryTerms, terms_tokenize, terms, List.flatMap_singleton, tokenize_join separated,
    List.filter_flatMap, List.map_flatMap, terms]

theorem separated_singleton (piece : String) : Separated [piece] :=
  List.isChain_singleton piece

/-- A separator may open a separated key. -/
theorem Separated.separator_cons {separator : String} (isSeparator : IsSeparator separator) :
    ∀ {key : List String}, Separated key → Separated (separator :: key)
  | [], _ => List.isChain_singleton _
  | _ :: _, separated => List.IsChain.cons_cons (.inl isSeparator) separated

/-- A separated key may go on with a separated key that opens with a separator. -/
theorem Separated.append_separator {key more : List String} {separator : String}
    (separated : Separated key) (isSeparator : IsSeparator separator)
    (after : Separated (separator :: more)) : Separated (key ++ separator :: more) :=
  List.IsChain.append separated after fun _ _ next first => by
    simp only [List.head?_cons, Option.mem_def, Option.some.injEq] at first
    exact .inr (first ▸ isSeparator)

/-- A name put after a separator at the end of a separated key gives a separated key. -/
theorem Separated.append_pair {key : List String} (separated : Separated key)
    {separator : String} (isSeparator : IsSeparator separator) (name : String) :
    Separated (key ++ [separator, name]) :=
  separated.append_separator isSeparator
    (Separated.separator_cons isSeparator (separated_singleton name))

end DocIndex.Search
