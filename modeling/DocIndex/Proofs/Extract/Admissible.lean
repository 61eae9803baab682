import DocIndex.Proofs.Indexing.Run
import DocIndex.Proofs.Extract.Python
import DocIndex.Proofs.Extract.Go
import DocIndex.Proofs.Extract.Markdown

/-!
# The built-in readers make admissible indexes

What a built-in reader makes of a directory tree whose names are distinct in each directory
and hold no `/`, with any parsers, is what the store takes: an index of the reader's language, under the latest
schema, with a single library that passes validation. None of the readers fails for the
schema either, so a job that runs a built-in reader and stores what it made never stops with
a schema failure: it stops only when it is cancelled, when a file cannot be read as its
language, when the key is refused, or when the store cannot be used.
-/

namespace DocIndex

open DocIndex.Document DocIndex.Disk DocIndex.Search

/-- What the store asks of a reader on a directory: what it makes is of the reader's
language, under the latest schema, in a single library, and passes validation; and a job
that runs it and stores the index never fails for the schema. -/
structure Reader.AdmissibleOn (reader : Reader) (halt : Halt) (root : SourceRoot) (node : Node) :
    Prop where
  made : ∀ index, reader.read halt root node = .ok index →
    index.language = reader.rules.language ∧ index.schemaVersion = latestVersion ∧
      index.libraries.length = 1 ∧ index.validate = .ok ()
  stored : ∀ (project : String) (store : Store),
    FailsOnly (fun failure => ¬ failure.IsSchema)
      (((({ project, root, node, reader } : Job).run halt).run).run store).1

/-- Each built-in reader, whatever its parsers, fails only for reasons other than the schema,
and what it makes of a well-formed tree is of its language, under the latest schema, with one
well-formed library. -/
theorem reader_makes_wellFormed {parsers : Parsers} {reader : Reader}
    (builtIn : reader ∈ readers parsers) (halt : Halt)
    (root : SourceRoot) {node : Node} (wellFormed : node.WellFormed) :
    FailsOnly (fun failure => ¬ failure.IsSchema) (reader.read halt root node) ∧
      ∀ index, reader.read halt root node = .ok index →
        index.language = reader.rules.language ∧ index.schemaVersion = latestVersion ∧
          index.libraries.length = 1 ∧ index.WellFormed := by
  simp only [readers, List.mem_cons, List.not_mem_nil, or_false] at builtIn
  rcases builtIn with rfl | rfl | rfl
  · exact ⟨Python.indexDirectory_failsOnly _ _ _,
      fun _ made => Python.indexDirectory_admissible wellFormed made⟩
  · exact ⟨Go.indexDirectory_failsOnly _ _ _ _, fun _ made => Go.indexDirectory_admissible made⟩
  · exact ⟨Markdown.indexDirectory_failsOnly _ _ _,
      fun _ made => Markdown.indexDirectory_admissible wellFormed made⟩

/-- Every index a built-in reader makes of a well-formed tree, whatever the parsers read in its
files, is admissible to the store, and storing it never fails for the schema. -/
theorem builtIn_reader_admissible {parsers : Parsers} {reader : Reader}
    (builtIn : reader ∈ readers parsers) (halt : Halt)
    (root : SourceRoot) {node : Node} (wellFormed : node.WellFormed) :
    reader.AdmissibleOn halt root node := by
  obtain ⟨readFails, madeWellFormed⟩ := reader_makes_wellFormed builtIn halt root wellFormed
  refine ⟨fun index made => ?_, fun project store => ?_⟩
  · obtain ⟨language, version, single, indexWellFormed⟩ := madeWellFormed index made
    exact ⟨language, version, single, (Index.validate_eq_ok_iff index).mpr indexWellFormed⟩
  · refine Job.run_failsOnly (checkpoint_failsOnly halt) readFails (fun index made store => ?_) store
    obtain ⟨language, -, -, indexWellFormed⟩ := madeWellFormed index made
    exact Store.put_failsOnly language indexWellFormed store halt project

/-- The Markdown reader on a directory holding one document is admissible, with a YAML loader
that finds no document. -/
theorem markdown_reader_admissible_on_one_document :
    (⟨Extract.markdownExtractor, fun halt root node =>
        Markdown.indexDirectory (fun _ => .ok none) halt root.name node⟩ : Reader) ∈
        readers ⟨fun _ => [], fun _ => [], fun _ => .ok none⟩ ∧
      (Node.dir [("guide.md", .file [35, 32, 97, 10, 35, 32, 97, 10])]).WellFormed ∧
      Reader.AdmissibleOn
        ⟨Extract.markdownExtractor, fun halt root node =>
          Markdown.indexDirectory (fun _ => .ok none) halt root.name node⟩
        none ⟨"docs", "docs", none⟩ (Node.dir [("guide.md", .file [35, 32, 97, 10, 35, 32, 97, 10])]) :=
  have member : (⟨Extract.markdownExtractor, fun halt root node =>
      Markdown.indexDirectory (fun _ => .ok none) halt root.name node⟩ : Reader) ∈
      readers ⟨fun _ => [], fun _ => [], fun _ => .ok none⟩ :=
    List.mem_cons_of_mem _ (List.mem_cons_of_mem _ List.mem_cons_self)
  have wellFormed : (Node.dir [("guide.md", .file [35, 32, 97, 10, 35, 32, 97, 10])]).WellFormed := by
    simp [Node.WellFormed, Node.EntriesWellFormed]
  ⟨member, wellFormed, builtIn_reader_admissible member none ⟨"docs", "docs", none⟩ wellFormed⟩

end DocIndex
