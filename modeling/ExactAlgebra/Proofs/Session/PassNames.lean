import ExactAlgebra.Proofs.FailingMap
import ExactAlgebra.Proofs.Text.Pieces
import ExactAlgebra.Session.Command

/-!
# Passes are chosen by their names

The name of a pass is one word without a comma, and reading it gives the pass: the name
before the colon is in lower case already, and the variable after it is read as it is
written. So the names of a pipeline may be joined by commas to a list of passes, and by
commas or spaces to a command that adds them to a session.
-/

namespace ExactAlgebra

open Text

/-! ## The name of one pass -/

namespace Pass

theorem isWord_name (pass : Pass) : IsWord pass.name := by
  cases pass with
  | simplify | expand => exact isWord_of_all (by decide) (by decide)
  | differentiate target =>
      exact (isWord_of_all (by decide) (by decide)).append target.isWord_text

theorem comma_not_mem_name (pass : Pass) : ',' ∉ pass.name.toList := by
  cases pass with
  | simplify | expand => decide
  | differentiate target =>
      rw [name, String.toList_append, List.mem_append, not_or]
      refine ⟨by decide, fun member => ?_⟩
      exact absurd (target.isAlpha_of_mem_text member) (by decide)

/-- Any variable may be named, also one that is named like a pass. -/
theorem readDifferentiate_text (word : String) (target : Symbol) :
    readDifferentiate word target.text = .ok (differentiate target) := by
  have nonempty : target.text ≠ "" := by
    intro empty
    exact target.toList_text_ne_nil (empty ▸ rfl)
  rw [readDifferentiate, if_neg nonempty, Symbol.ofText?_text]

/-- The name of a pass is read as the pass. -/
theorem read_name (pass : Pass) : read pass.name = .ok pass := by
  cases pass with
  | simplify | expand => decide +kernel
  | differentiate target =>
      have stripped := (isWord_name (differentiate target)).isTrimmed.strip_eq
      have parts : name (differentiate target) = "differentiate" ++ ":" ++ target.text := rfl
      have lowered : lower (strip "differentiate") = "differentiate" := by decide +kernel
      rw [read, stripped, parts, cut_append rfl (by decide)]
      dsimp only
      rw [lowered, ofParts, if_pos (.inl rfl), Option.getD_some,
        target.isWord_text.isTrimmed.strip_eq, readDifferentiate_text]

end Pass

/-! ## The names of a pipeline -/

namespace Pipeline

variable (pipeline : Pipeline)

theorem areWords_names : ∀ name ∈ pipeline.names, IsWord name :=
  List.forall_mem_map.mpr fun pass _ => pass.isWord_name

theorem comma_not_mem_names : ∀ name ∈ pipeline.names, ',' ∉ name.toList :=
  List.forall_mem_map.mpr fun pass _ => pass.comma_not_mem_name

/-- The names of the passes are read as the passes, in the same order. -/
theorem mapM_read_names : pipeline.names.mapM Pass.read = .ok pipeline :=
  mapM_eq_ok_iff.mpr
    (List.forall₂_map_left_iff.mpr (List.forall₂_same.mpr fun pass _ => pass.read_name))

/-- The names joined by commas are a list of the passes. -/
theorem readList_names : Pass.readList (",".intercalate pipeline.names) = .ok pipeline := by
  cases pipeline with
  | nil => decide +kernel
  | cons pass others =>
      have pieces : splitAtChar ',' (",".intercalate (names (pass :: others))) =
          names (pass :: others) :=
        splitAtChar_intercalate rfl (comma_not_mem_names (pass :: others))
      have noneBlank : ∀ name ∈ names (pass :: others), decide (strip name ≠ "") = true := by
        intro name member
        have isWord := areWords_names _ name member
        rw [isWord.isTrimmed.strip_eq, decide_eq_true_iff]
        intro empty
        exact isWord.nonempty (empty ▸ rfl)
      rw [Pass.readList, pieces, List.filter_eq_self.mpr noneBlank, mapM_read_names]

end Pipeline

/-! ## The command -/

/-- A command is its name in lower case and what follows the space after it. -/
theorem Command.read_append_space
    {word argument : String}
    (isWord : IsWord word)
    (trimmed : IsTrimmed argument) :
    read (word ++ " " ++ argument) = ofParts (lower word) argument := by
  have characters := @toList_append_mark " " ' ' rfl word argument
  have start : (word.toList ++ ' ' :: argument.toList).dropWhile isBlank =
      word.toList ++ ' ' :: argument.toList :=
    dropWhile_eq_self
      (by rw [List.head?_append, List.head?_eq_some_head isWord.nonempty, Option.some_or])
      (isWord.unbroken _ (List.head_mem _))
  have inWord : ∀ character ∈ word.toList, (!isBlank character) = true := fun _ member =>
    (isWord.unbroken _ member).symm ▸ rfl
  have endsWord : (!isBlank ' ') = false := rfl
  obtain ⟨before, after⟩ := takeWhile_dropWhile_append_cons inWord endsWord argument.toList
  unfold read
  simp only [characters, start, before, after, List.isEmpty_eq_false_iff.mpr isWord.nonempty,
    Bool.false_eq_true, if_false, String.ofList_toList, strip_space_cons trimmed]

namespace Session

/-- A line with a colon in front is a command. -/
theorem classify_colon {text : String} (trimmed : IsTrimmed (":" ++ text)) :
    classify (":" ++ text) = .command (.read text) := by
  have characters : (":" ++ text).toList = ':' :: text.toList := by
    rw [String.toList_append]
    rfl
  unfold classify
  simp only [trimmed.strip_eq, characters, String.ofList_toList]

/-- A comma counts as a space. -/
def commaToSpace (character : Char) : Char :=
  if character = ',' then ' ' else character

theorem map_commaToSpace {characters : List Char} (absent : ',' ∉ characters) :
    characters.map commaToSpace = characters := by
  have kept : ∀ character ∈ characters, commaToSpace character = id character := by
    intro character member
    refine if_neg fun comma => ?_
    exact absent (comma ▸ member)
  rw [List.map_congr_left kept, List.map_id]

/-- Names joined by commas are joined by spaces when commas count as spaces. -/
theorem map_commaToSpace_intercalate
    {separator : String}
    (isSeparator : separator = " " ∨ separator = ",")
    {names : List String}
    (noComma : ∀ name ∈ names, ',' ∉ name.toList) :
    (separator.intercalate names).toList.map commaToSpace = (" ".intercalate names).toList := by
  have spaced : separator.toList.map commaToSpace = " ".toList := by
    rcases isSeparator with rfl | rfl <;> rfl
  induction names with
  | nil => rfl
  | cons name names hypothesis =>
      obtain ⟨here, others⟩ := List.forall_mem_cons.mp noComma
      cases names with
      | nil =>
          rw [String.intercalate_singleton, String.intercalate_singleton, map_commaToSpace here]
      | cons next names =>
          simp only [String.intercalate_cons_cons, String.toList_append, List.map_append,
            map_commaToSpace here, spaced, hypothesis others]

/-- The names that were joined by spaces or commas are found again. -/
theorem passNames_intercalate
    {separator : String}
    (isSeparator : separator = " " ∨ separator = ",")
    {names : List String}
    (areWords : ∀ name ∈ names, IsWord name)
    (noComma : ∀ name ∈ names, ',' ∉ name.toList) :
    passNames (separator.intercalate names) = names := by
  have spaced := map_commaToSpace_intercalate isSeparator noComma
  change words (String.ofList ((separator.intercalate names).toList.map commaToSpace)) = names
  rw [spaced, String.ofList_toList, words_intercalate areWords]

/-- Adding passes by their joined names adds the passes. -/
theorem transform_names
    (session : Session)
    {separator : String}
    (isSeparator : separator = " " ∨ separator = ",")
    {pipeline : Pipeline}
    (written : separator.intercalate pipeline.names ≠ "") :
    session.transform (separator.intercalate pipeline.names) =
      ({ session with pipeline := session.pipeline ++ pipeline },
        .message ("Passes: " ++ " -> ".intercalate (session.pipeline ++ pipeline).names)) := by
  have added : session.addPasses pipeline.names =
      .ok { session with pipeline := session.pipeline ++ pipeline } := by
    rw [addPasses, pipeline.mapM_read_names]
    rfl
  rw [transform, if_neg written,
    passNames_intercalate isSeparator pipeline.areWords_names pipeline.comma_not_mem_names, added]
  rfl

/-- The joined names of passes, of which there is one at least, start and end with the
letters of names. -/
theorem isTrimmed_joinedNames
    (separator : String)
    {pipeline : Pipeline}
    (nonempty : pipeline ≠ []) :
    IsTrimmed (separator.intercalate pipeline.names) := by
  obtain ⟨pass, others, rfl⟩ := List.exists_cons_of_ne_nil nonempty
  exact isTrimmed_intercalate separator (Pipeline.areWords_names (pass :: others))

/-- The command with the joined names of passes adds the passes. -/
theorem process_transform_names
    (session : Session)
    {separator : String}
    (isSeparator : separator = " " ∨ separator = ",")
    {pipeline : Pipeline}
    (nonempty : pipeline ≠ []) :
    session.process (":transform " ++ separator.intercalate pipeline.names) =
      { session := { session with pipeline := session.pipeline ++ pipeline }
        reply := .message
          ("Passes: " ++ " -> ".intercalate (session.pipeline ++ pipeline).names)
        log := [] } := by
  have trimmed := isTrimmed_joinedNames separator nonempty
  have written : separator.intercalate pipeline.names ≠ "" := by
    obtain ⟨_, first, _⟩ := trimmed.first
    exact ne_empty_of_first? first
  have line : ":transform " ++ separator.intercalate pipeline.names =
      ":" ++ ("transform" ++ " " ++ separator.intercalate pipeline.names) := by
    simp only [← String.append_assoc]
    rfl
  have command : IsWord ":transform" := isWord_of_all (by decide) (by decide)
  have lineTrimmed := command.isTrimmed.append " " trimmed
  have word : IsWord "transform" := isWord_of_all (by decide) (by decide)
  have lowered : lower "transform" = "transform" := by decide +kernel
  rw [process, line, classify_colon lineTrimmed, Command.read_append_space word trimmed, lowered]
  change Response.mk (session.transform _).1 (session.transform _).2 [] = _
  rw [session.transform_names isSeparator written]

/-- Names of passes are read as the passes. A pipeline is read back from its names joined
by commas, and the command with its names joined by spaces or commas makes it the pipeline
of a session that has no passes. Nothing else of the session changes, and the reply is no
failure. -/
theorem passNames_readBack (pipeline : Pipeline) :
    Pass.readList (",".intercalate pipeline.names) = .ok pipeline ∧
      ∀ (session : Session) (separator : String),
        session.pipeline = [] → pipeline ≠ [] → (separator = " " ∨ separator = ",") →
          session.process (":transform " ++ separator.intercalate pipeline.names) =
            { session := { session with pipeline := pipeline }
              reply := .message ("Passes: " ++ " -> ".intercalate pipeline.names)
              log := [] } := by
  refine ⟨pipeline.readList_names, fun session separator empty nonempty isSeparator => ?_⟩
  have added := session.process_transform_names isSeparator nonempty
  rwa [empty, List.nil_append] at added

/-- Passes for variables that are named like passes or differ in case only. -/
def lookalikePasses : Pipeline :=
  [.differentiate ⟨"simplify", rfl⟩, .expand, .differentiate ⟨"X", rfl⟩, .simplify,
    .differentiate ⟨"x", rfl⟩]

theorem passNames_readBack_lookalikes :
    (start .program .tree).pipeline = [] ∧ lookalikePasses ≠ [] ∧
      Pass.readList "differentiate:simplify,expand,differentiate:X,simplify,differentiate:x" =
        .ok lookalikePasses ∧
      ((start .program .tree).process (":transform " ++
        "differentiate:simplify expand differentiate:X simplify differentiate:x")).session =
          { start .program .tree with pipeline := lookalikePasses } := by
  have nonempty : lookalikePasses ≠ [] := List.cons_ne_nil _ _
  obtain ⟨list, command⟩ := passNames_readBack lookalikePasses
  refine ⟨rfl, nonempty, list, ?_⟩
  exact congrArg Response.session (command (start .program .tree) " " rfl nonempty (.inl rfl))

end Session

end ExactAlgebra
