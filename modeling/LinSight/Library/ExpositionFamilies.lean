import LinSight.Library.ExpositionText
import LinSight.Library.Fallible

set_option autoImplicit false

/-! Metrics with their samples, and when a page of them is read back. -/

namespace Exposition

/-- A line that says nothing. -/
def Skipped (line : List Char) : Prop :=
  readLine line = some .blank ∨ readLine line = some .comment

theorem skipped_iff {line : List Char} :
    Skipped line ↔ ∃ read, readLine line = some read ∧ read.metric? = none := by
  constructor
  · rintro (blank | comment)
    · exact ⟨_, blank, rfl⟩
    · exact ⟨_, comment, rfl⟩
  · rintro ⟨read, reads, nothing⟩
    cases read with
    | blank => exact .inl reads
    | comment => exact .inr reads
    | help | type | sample => cases nothing

/-- A HELP text with escapes in its first line and nothing in the others. -/
def HelpReads (doc : List Char) : Prop :=
  (unescapeDoc ((doc.splitOn '\n').headD [])).isSome ∧ ∀ line ∈ (doc.splitOn '\n').tail, Skipped line

/-- A metric with its samples. -/
structure Family where
  metric : List Char
  doc : List Char
  kind : MetricType
  samples : List (List Label × List Char)
  name : isMetricName metric
  labels : ∀ sample ∈ samples, ∀ label ∈ sample.1, isLabelName label.1
  numbers : ∀ sample ∈ samples, IsNumber sample.2

namespace Family

variable (family : Family)

/-- What is written, with the help as it is. -/
def texts : List (List Char) :=
  (helpText family.metric family.doc).splitOn '\n' ++
    typeText family.metric family.kind ::
      family.samples.map fun sample => sampleText family.metric sample.1 sample.2

def lines : List Line := family.texts.filterMap readLine

/-- What a reader should get. -/
def read : List Sample :=
  family.samples.map fun sample => ⟨family.metric, sample.1, sample.2, none⟩

theorem single : ∀ text ∈ family.texts, '\n' ∉ text := by
  refine List.forall_mem_append.mpr ⟨fun _ => Words.not_mem_of_mem_splitOn, ?_⟩
  refine List.forall_mem_cons.mpr ⟨single_typeText family.name _, List.forall_mem_map.mpr ?_⟩
  exact fun sample member =>
    single_sampleText family.name (family.labels sample member) (family.numbers sample member)

theorem unlines_texts :
    unlines family.texts = helpText family.metric family.doc ++ '\n' ::
      (typeText family.metric family.kind ++ '\n' :: unlines
        (family.samples.map fun sample => sampleText family.metric sample.1 sample.2)) := by
  rw [texts, unlines_append, unlines_splitOn, unlines_cons, List.append_assoc]
  rfl

/-- The first line of the help stands behind the keyword and the metric. -/
theorem splitOn_helpText {first : List Char} {more : List (List Char)}
    (split : family.doc.splitOn '\n' = first :: more) :
    (helpText family.metric family.doc).splitOn '\n' = helpText family.metric first :: more := by
  have front : helpText family.metric family.doc =
      ['#', ' ', 'H', 'E', 'L', 'P', ' '] ++ family.metric ++ [' '] ++ family.doc :=
    List.append_cons ..
  have single : '\n' ∉ ['#', ' ', 'H', 'E', 'L', 'P', ' '] ++ family.metric ++ [' '] := by
    simp only [List.mem_append, not_or]
    exact ⟨⟨by decide, single_of_isMetricName family.name⟩, by decide⟩
  rw [front, splitOn_append single, split, List.modifyHead_cons]
  exact congrArg (· :: more) (List.append_cons ..).symm

/-- The lines behind the help. -/
theorem readLine_rest :
    (typeText family.metric family.kind ::
        family.samples.map fun sample => sampleText family.metric sample.1 sample.2).map readLine =
      (Line.type family.metric family.kind :: family.read.map .sample).map some := by
  simp only [read, List.map_cons, List.map_map, readLine_type family.name]
  refine congrArg (_ :: ·) (List.map_congr_left fun sample member => ?_)
  have number := family.numbers sample member
  exact readLine_sampleText family.name (family.labels sample member)
    (fun c inside => (number.word c inside).1) number.float

theorem filterMap_rest :
    (typeText family.metric family.kind ::
        family.samples.map fun sample => sampleText family.metric sample.1 sample.2).filterMap
          readLine =
      .type family.metric family.kind :: family.read.map .sample := by
  have rest := congrArg (·.filterMap id) family.readLine_rest
  simp only [List.filterMap_map, CompTriple.comp_eq] at rest
  exact rest.trans List.filterMap_some

theorem lines_of_split {first : List Char} {more : List (List Char)}
    (split : family.doc.splitOn '\n' = first :: more) {doc : List Char}
    (reads : unescapeDoc (skipBlanks first) = some doc) :
    family.lines = .help family.metric doc ::
      (more.filterMap readLine ++ .type family.metric family.kind :: family.read.map .sample) := by
  have help : readLine (helpText family.metric first) = some (.help family.metric doc) := by
    rw [readLine_help family.name, reads]
    rfl
  rw [lines, texts, family.splitOn_helpText split, List.cons_append,
    List.filterMap_cons_some help, List.filterMap_append, family.filterMap_rest]

/-- Only the help can make the family unreadable. -/
theorem texts_read_iff {first : List Char} {more : List (List Char)}
    (split : family.doc.splitOn '\n' = first :: more) :
    (∀ text ∈ family.texts, (readLine text).isSome) ↔
      (unescapeDoc (skipBlanks first)).isSome ∧ ∀ line ∈ more, (readLine line).isSome := by
  have rest : ∀ text ∈ typeText family.metric family.kind ::
      family.samples.map (fun sample => sampleText family.metric sample.1 sample.2),
      (readLine text).isSome := by
    intro text member
    have found : readLine text ∈ (Line.type family.metric family.kind ::
        family.read.map .sample).map some :=
      family.readLine_rest ▸ List.mem_map.mpr ⟨text, member, rfl⟩
    obtain ⟨line, _, same⟩ := List.mem_map.mp found
    rw [← same]
    rfl
  rw [texts, family.splitOn_helpText split, List.forall_mem_append, List.forall_mem_cons,
    readLine_help family.name, Option.isSome_map]
  exact and_iff_left rest

theorem headed (reads : ∀ text ∈ family.texts, (readLine text).isSome) :
    Headed family.metric family.lines := by
  obtain ⟨first, more, split⟩ := exists_splitOn family.doc
  obtain ⟨doc, help⟩ := Option.isSome_iff_exists.mp ((family.texts_read_iff split).mp reads).1
  have samples : metrics (family.read.map .sample) =
      List.replicate family.samples.length family.metric := by
    have each : Line.metric? ∘ Line.sample = some ∘ Sample.metric := rfl
    rw [metrics, List.filterMap_map, each, List.filterMap_eq_map, read, List.map_map]
    exact List.map_const ..
  rw [family.lines_of_split split help]
  constructor
  · simp only [List.filterMap_cons, Line.type?, List.filterMap_append]
    exact List.mem_append_right _ List.mem_cons_self
  · refine ⟨metrics (more.filterMap readLine) ++
      List.replicate family.samples.length family.metric, ?_⟩
    rw [List.append_assoc, ← List.replicate_succ', List.replicate_succ, ← samples]
    simp only [metrics, List.filterMap_cons, Line.metric?, List.filterMap_append]

/-- A reader takes the family where its help reads and no labels come twice. -/
theorem reads_iff :
    (∀ text ∈ family.texts, (readLine text).isSome) ∧
        WellFormed family.lines ∧ Only family.metric family.lines ↔
      HelpReads family.doc ∧ family.read.Pairwise fun a b => ¬ SameLabels a b := by
  obtain ⟨first, more, split⟩ := exists_splitOn family.doc
  have own : ∀ sample ∈ family.read, sample.metric = family.metric :=
    List.forall_mem_map.mpr fun _ _ => rfl
  have help : HelpReads family.doc ↔
      (unescapeDoc (skipBlanks first)).isSome ∧ ∀ line ∈ more, Skipped line := by
    rw [HelpReads, split, unescapeDoc_skipBlanks]
    exact Iff.rfl
  rw [family.texts_read_iff split, help]
  constructor
  · rintro ⟨⟨firstReads, moreRead⟩, formed, only⟩
    obtain ⟨doc, reads⟩ := Option.isSome_iff_exists.mp firstReads
    rw [family.lines_of_split split reads] at formed only
    obtain ⟨nothing, distinct⟩ := (wellFormed_family_iff own).mp ⟨formed, only⟩
    refine ⟨⟨firstReads, fun line member => ?_⟩, distinct⟩
    obtain ⟨read, lineReads⟩ := Option.isSome_iff_exists.mp (moreRead line member)
    have inside : read ∈ more.filterMap readLine := List.mem_filterMap.mpr ⟨line, member, lineReads⟩
    exact skipped_iff.mpr ⟨read, lineReads, nothing read inside⟩
  · rintro ⟨⟨firstReads, skipped⟩, distinct⟩
    obtain ⟨doc, reads⟩ := Option.isSome_iff_exists.mp firstReads
    refine ⟨⟨firstReads, fun line member => ?_⟩, ?_⟩
    · obtain ⟨read, lineReads, _⟩ := skipped_iff.mp (skipped line member)
      rw [lineReads]
      rfl
    · rw [family.lines_of_split split reads]
      refine (wellFormed_family_iff own).mpr ⟨fun read inside => ?_, distinct⟩
      obtain ⟨line, member, lineReads⟩ := List.mem_filterMap.mp inside
      obtain ⟨same, sameReads, nothing⟩ := skipped_iff.mp (skipped line member)
      cases lineReads.symm.trans sameReads
      exact nothing

/-- The samples come back as they were written. -/
theorem samples_read (help : HelpReads family.doc) :
    family.lines.filterMap Line.sample? = family.read := by
  obtain ⟨first, more, split⟩ := exists_splitOn family.doc
  rw [HelpReads, split, List.headD_cons, ← unescapeDoc_skipBlanks] at help
  obtain ⟨doc, reads⟩ := Option.isSome_iff_exists.mp help.1
  have none : (more.filterMap readLine).filterMap Line.sample? = [] := by
    refine List.filterMap_eq_nil_iff.mpr fun read inside => ?_
    obtain ⟨line, member, lineReads⟩ := List.mem_filterMap.mp inside
    obtain ⟨same, sameReads, nothing⟩ := skipped_iff.mp (help.2 line member)
    cases lineReads.symm.trans sameReads
    cases read <;> cases nothing <;> rfl
  have own : (family.read.map Line.sample).filterMap Line.sample? = family.read := by
    rw [List.filterMap_map]
    exact List.filterMap_some
  rw [family.lines_of_split split reads]
  simp only [List.filterMap_cons, Line.sample?, List.filterMap_append, none, own, List.nil_append]

end Family

/-- Labels under the same names are the same set only where they are the same list. -/
theorem eq_of_same_members {a b : List Label} (names : a.map Prod.fst = b.map Prod.fst)
    (nodup : (a.map Prod.fst).Nodup) (same : ∀ label, label ∈ a ↔ label ∈ b) : a = b := by
  induction a generalizing b with
  | nil => exact (List.map_eq_nil_iff.mp names.symm).symm
  | cons label rest ih =>
      cases b with
      | nil => cases names
      | cons other others =>
          obtain ⟨name, others_same⟩ := List.cons.inj names
          obtain ⟨new, nodup⟩ := List.nodup_cons.mp nodup
          have otherNew : other.1 ∉ others.map Prod.fst := by
            rw [← name, ← others_same]
            exact new
          have here : label = other := by
            rcases List.mem_cons.mp ((same label).mp List.mem_cons_self) with here | later
            · exact here
            · exact absurd (name ▸ List.mem_map_of_mem later) otherNew
          subst here
          refine congrArg (label :: ·) (ih others_same nodup fun found => ⟨?_, ?_⟩) <;> intro member
          · rcases List.mem_cons.mp ((same found).mp (List.mem_cons_of_mem _ member)) with
              here | later
            · exact absurd (here ▸ List.mem_map_of_mem member) new
            · exact later
          · rcases List.mem_cons.mp ((same found).mpr (List.mem_cons_of_mem _ member)) with
              here | later
            · exact absurd (here ▸ List.mem_map_of_mem member) otherNew
            · exact later

/-! ### Pages of families -/

theorem mapM_readLine_iff {texts : List (List Char)} {lines : List Line} :
    texts.mapM readLine = some lines ↔
      (∀ text ∈ texts, (readLine text).isSome) ∧ lines = texts.filterMap readLine := by
  rw [Fallible.mapM_eq_some]
  constructor
  · intro pairs
    induction pairs with
    | nil => exact ⟨nofun, rfl⟩
    | cons here _ ih =>
        rw [List.forall_mem_cons, List.filterMap_cons_some here, here, ← ih.2]
        exact ⟨⟨rfl, ih.1⟩, rfl⟩
  · rintro ⟨reads, rfl⟩
    induction texts with
    | nil => exact .nil
    | cons text rest ih =>
        obtain ⟨here, later⟩ := List.forall_mem_cons.mp reads
        obtain ⟨line, here⟩ := Option.isSome_iff_exists.mp here
        rw [List.filterMap_cons_some here]
        exact .cons here (ih later)

/-- The text reads as a well-formed page with these samples. -/
def Valid (text : List Char) (samples : List Sample) : Prop :=
  ∃ lines, readPage text = some lines ∧ WellFormed lines ∧
    lines.filterMap Line.sample? = samples

/-- A reader takes the page if and only if no metric comes twice and it takes each family. -/
theorem valid_families_iff {front : List Char} (single : '\n' ∉ front)
    (comment : readLine front = some .comment) {families : List Family} :
    Valid (unlines (front :: families.flatMap Family.texts)) (families.flatMap Family.read) ↔
      (families.map Family.metric).Nodup ∧
        ∀ family ∈ families, HelpReads family.doc ∧
          family.read.Pairwise fun a b => ¬ SameLabels a b := by
  have lineByLine : ∀ text ∈ front :: families.flatMap Family.texts, '\n' ∉ text := by
    refine List.forall_mem_cons.mpr ⟨single, fun text member => ?_⟩
    obtain ⟨family, _, inside⟩ := List.mem_flatMap.mp member
    exact family.single text inside
  have whole : (front :: families.flatMap Family.texts).filterMap readLine =
      .comment :: (families.map fun family => (family.metric, family.lines)).flatMap Prod.snd := by
    rw [List.filterMap_cons_some comment, List.filterMap_flatMap, List.flatMap_map]
    rfl
  have valid_iff : Valid (unlines (front :: families.flatMap Family.texts))
        (families.flatMap Family.read) ↔
      (∀ family ∈ families, ∀ text ∈ family.texts, (readLine text).isSome) ∧
        WellFormed ((families.map fun family => (family.metric, family.lines)).flatMap Prod.snd) ∧
        families.flatMap (·.lines.filterMap Line.sample?) = families.flatMap Family.read := by
    have ignored : ∀ lines, WellFormed (.comment :: lines) ↔ WellFormed lines :=
      fun _ => wellFormed_cons_iff rfl
    unfold Valid
    rw [readPage_unlines lineByLine]
    simp only [mapM_readLine_iff, and_assoc, exists_and_left, exists_eq_left, whole,
      ignored, List.forall_mem_cons, comment, Option.isSome_some, true_and,
      List.filterMap_cons, Line.sample?, List.filterMap_flatMap, List.flatMap_map]
    refine and_congr_left' ?_
    simp only [List.mem_flatMap, forall_exists_index, and_imp]
    exact ⟨fun each family member text inside => each text family member inside,
      fun each text family member inside => each family member text inside⟩
  rw [valid_iff]
  constructor
  · rintro ⟨reads, formed, _⟩
    have headed : ∀ block ∈ families.map fun family => (family.metric, family.lines),
        Headed block.1 block.2 :=
      List.forall_mem_map.mpr fun family member => family.headed (reads family member)
    obtain ⟨nodup, each⟩ := (wellFormed_blocks_iff headed).mp formed
    rw [List.map_map] at nodup
    refine ⟨nodup, fun family member => family.reads_iff.mp ⟨reads family member, ?_⟩⟩
    exact each _ (List.mem_map.mpr ⟨family, member, rfl⟩)
  · rintro ⟨nodup, each⟩
    have taken := fun family member => (Family.reads_iff family).mpr (each family member)
    have headed : ∀ block ∈ families.map fun family => (family.metric, family.lines),
        Headed block.1 block.2 :=
      List.forall_mem_map.mpr fun family member => family.headed (taken family member).1
    refine ⟨fun family member => (taken family member).1, ?_, ?_⟩
    · refine (wellFormed_blocks_iff headed).mpr ⟨?_, ?_⟩
      · rw [List.map_map]
        exact nodup
      · exact List.forall_mem_map.mpr fun family member => (taken family member).2
    · exact List.flatMap_congr fun family member => family.samples_read (each family member).1

end Exposition
