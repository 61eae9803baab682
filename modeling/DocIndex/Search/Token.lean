import DocIndex.Text.Word
import DocIndex.Text.Basic
import DocIndex.Text.Case

/-!
# Tokens and terms

A text splits into tokens: maximal runs of word characters, and single characters that are
neither word characters nor blank. Blanks only separate tokens. The terms of a list of texts
are the lower-cased word runs of their tokens, in order; punctuation carries no term. Queries
and search keys are matched through their terms.
-/

namespace DocIndex.Search

open DocIndex.Text

/-- Split characters into tokens; `run` holds the word run read so far, last character
first. -/
def scanTokens (run : List Char) : List Char → List (List Char)
  | [] => if run.isEmpty then [] else [run.reverse]
  | c :: rest =>
    if isWordChar c then
      scanTokens (c :: run) rest
    else
      let flushed := if run.isEmpty then [] else [run.reverse]
      if isBlank c then flushed ++ scanTokens [] rest
      else flushed ++ [c] :: scanTokens [] rest

/-- The tokens of a text: word runs and single punctuation characters, in order. -/
def tokenize (text : String) : List String :=
  (scanTokens [] text.toList).map String.ofList

/-- Whether a token is a run of word characters. -/
def isWordRun (token : String) : Bool :=
  !token.isEmpty && token.toList.all isWordChar

/-- The terms of a list of texts: the lower-cased word runs of their tokens, in order. -/
def terms (texts : List String) : List String :=
  texts.flatMap fun text => ((tokenize text).filter isWordRun).map lower

end DocIndex.Search
