import DocIndex.Extract.Extractor
import DocIndex.Disk.Walk
import DocIndex.Search.Inverted

/-!
# The extractor registry

A registry holds extractors in registration order. It is built only from a consistent set:
every extractor declares a language, no language is registered twice, and no extension is
claimed by two extractors. Dispatch walks a directory and returns, in registration order,
the extractors that accept at least one of the files found; it looks at each file through
the extractor claiming its extension, and stops looking once every language is found.
-/

namespace DocIndex.Extract

open DocIndex.Disk

/-- A consistent set of extractors, in registration order. -/
structure Registry where
  extractors : List Extractor

/-- The extensions claimed so far, each with the language claiming it. -/
abbrev Claims := List (String × String)

/-- Claim an extractor's extensions, in code-point order, failing at the first one already
claimed. -/
def claimExtensions (language : String) : Claims → List String → Except Failure Claims
  | claims, [] => .ok claims
  | claims, ext :: rest =>
    match claims.lookup ext with
    | some owner =>
      .error (.registry ("Extension '." ++ ext ++ "' claimed by both '" ++ owner ++ "' and '" ++
        language ++ "'"))
    | none => claimExtensions language (claims ++ [(ext, language)]) rest

/-- Check extractors one by one: the languages seen and the extensions claimed so far. -/
def checkExtractors : List String → Claims → List Extractor → Except Failure Unit
  | _, _, [] => .ok ()
  | languages, claims, extractor :: rest => do
    if extractor.language.isEmpty then
      throw (.registry (extractor.describe ++ " does not declare a language"))
    if languages.contains extractor.language then
      throw (.registry ("Extractor for language '" ++ extractor.language ++
        "' already registered"))
    let claimed ← claimExtensions extractor.language claims
      (Search.sortedDistinct extractor.extensions)
    checkExtractors (languages ++ [extractor.language]) claimed rest

/-- Build a registry, refusing an inconsistent set of extractors. -/
def Registry.build (extractors : List Extractor) : Except Failure Registry := do
  checkExtractors [] [] extractors
  pure ⟨extractors⟩

/-- The registry of the built-in extractors. -/
def Registry.standard : Registry :=
  ⟨[pythonExtractor, goExtractor, markdownExtractor]⟩

namespace Registry

/-- The registered languages, in registration order. -/
def languages (registry : Registry) : List String :=
  registry.extractors.map Extractor.language

/-- How many extractors are registered. -/
def size (registry : Registry) : Nat :=
  registry.extractors.length

/-- Whether a language is registered. -/
def contains (registry : Registry) (language : String) : Bool :=
  registry.languages.contains language

/-- The extractor of a language. -/
def get? (registry : Registry) (language : String) : Option Extractor :=
  registry.extractors.find? fun extractor => extractor.language == language

/-- The extractor claiming an extension, given exactly. -/
def claiming (registry : Registry) (extension : String) : Option Extractor :=
  registry.extractors.find? fun extractor => extractor.extensions.contains extension

/-- The extractor claiming an extension, given with or without its dot and in any case. -/
def forExtension (registry : Registry) (extension : String) : Option Extractor :=
  registry.claiming (String.ofList ((Text.lower extension).toList.dropWhile (· = '.')))

/-- The languages found among files, after those `found` before: a file counts for the
extractor claiming its extension when that extractor accepts it, each language is counted
once, and the scan stops as soon as every registered language is found. -/
def languagesFound (registry : Registry) (found : List String) : List SourceFile → List String
  | [] => found
  | file :: rest =>
    match registry.claiming file.extension with
    | some extractor =>
      if found.contains extractor.language then registry.languagesFound found rest
      else if extractor.accepts file.relativePath (some file.extension) then
        if found.length + 1 = registry.size then found ++ [extractor.language]
        else registry.languagesFound (found ++ [extractor.language]) rest
      else registry.languagesFound found rest
    | none => registry.languagesFound found rest

/-- The extractors with something to index under a directory, in registration order. -/
def dispatch (registry : Registry) (halt : Search.Halt) (root : Node) :
    Except Failure (List Extractor) := do
  let files ← walk halt root
  let found := registry.languagesFound [] files
  pure (registry.extractors.filter fun extractor => found.contains extractor.language)

end Registry

end DocIndex.Extract
