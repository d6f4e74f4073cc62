import Terralens.Proofs.KeyMap
import Terralens.Proofs.Pieces
import Terralens.Proofs.Table
import Terralens.Report.Text

/-!
# Sensitive values in reports

Two analyses are the same but for sensitive values when they are the same once these are blotted
out (`Analysis.concealed`). The text of a report is made from the blotted analysis, apart from one
table: the values of sensitive outputs are not in it at all, but the table of variables has the
value of a sensitive variable in its column of defaults (`secretCells`). Nothing else is disclosed,
and this is disclosed: the texts of two such analyses are the same if these cells are, and only if
they are the same up to blanks at their ends (`write_text_discloses`).
-/

namespace Terralens

/-! ### Concealed values -/

/-- A variable with its default blotted out if it is sensitive. -/
def VariableEntry.concealed (e : VariableEntry) : VariableEntry :=
  if e.sensitive = some true then { e with default := e.default.map fun _ => .null } else e

theorem VariableEntry.exists_concealed_eq (e : VariableEntry) :
    ∃ default, e.concealed = { e with default := default } := by
  unfold concealed
  split
  · exact ⟨_, rfl⟩
  · exact ⟨e.default, rfl⟩

/-- Variables that are the same but for a sensitive default are the same in everything else. -/
theorem VariableEntry.exists_of_concealed_eq {e e' : VariableEntry}
    (h : e.concealed = e'.concealed) : ∃ default, e' = { e with default := default } := by
  obtain ⟨default, hdefault⟩ := e.exists_concealed_eq
  obtain ⟨default', hdefault'⟩ := e'.exists_concealed_eq
  rw [hdefault, hdefault'] at h
  cases e
  cases e'
  simp_all

/-- An output with its value blotted out if it is sensitive. -/
def OutputEntry.concealed (e : OutputEntry) : OutputEntry :=
  if e.sensitive = some true then { e with value := e.value.map fun _ => "" } else e

namespace Configuration

def isSecret (c : Configuration) (name : String) : Bool :=
  c.inputs.values.any fun e => e.sensitive = some true && e.name == name

/-- The configuration without the values of sensitive outputs and variables. What has a value
  still has one, and is where it was. -/
def concealed (c : Configuration) : Configuration :=
  { c with
    inputs := c.inputs.map VariableEntry.concealed
    outputs := c.outputs.map OutputEntry.concealed
    variableValues := c.variableValues.mapWithKey fun name v =>
      if c.isSecret name then { v with value := .null } else v }

theorem isSecret_concealed (c : Configuration) (name : String) :
    c.concealed.isSecret name = c.isSecret name := by
  unfold isSecret
  rw [show c.concealed.inputs = c.inputs.map VariableEntry.concealed from rfl,
    KeyMap.values_map, List.any_map]
  congr 1
  funext e
  obtain ⟨default, hdefault⟩ := e.exists_concealed_eq
  rw [Function.comp_apply, hdefault]

section

variable {c c' : Configuration} {name : String}

theorem isSecret_eq (h : c.concealed = c'.concealed) (name : String) :
    c.isSecret name = c'.isSecret name := by
  rw [← isSecret_concealed c, h, isSecret_concealed]

theorem map_get?_eq (h : c.concealed = c'.concealed) (name : String) :
    (c.variableValues.get? name).map
        (fun v => if c.isSecret name then { v with value := .null } else v) =
      (c'.variableValues.get? name).map
        fun v => if c.isSecret name then { v with value := .null } else v := by
  have hvalues := congrArg (·.variableValues.get? name) h
  simp only [concealed, KeyMap.get?_mapWithKey, ← isSecret_eq h name] at hvalues
  exact hvalues

/-- The same values are given to variables that are not sensitive. -/
theorem get?_eq_of_not_isSecret (h : c.concealed = c'.concealed) (hname : ¬ c.isSecret name) :
    c.variableValues.get? name = c'.variableValues.get? name := by
  have hvalues := map_get?_eq h name
  simpa [hname] using hvalues

theorem isSome_get?_eq (h : c.concealed = c'.concealed) (name : String) :
    (c.variableValues.get? name).isSome = (c'.variableValues.get? name).isSome := by
  have hvalues := congrArg Option.isSome (map_get?_eq h name)
  simpa using hvalues

end

end Configuration

def Analysis.concealed (a : Analysis) : Analysis :=
  { a with configuration := a.configuration.concealed }

namespace Report

/-! ### What does not show sensitive values -/

theorem outputRow_concealed (e : OutputEntry) : outputRow e.concealed = outputRow e := by
  unfold OutputEntry.concealed
  split
  next h => simp [outputRow, h]
  next => rfl

theorem outputs_concealed (view : View) (a : Analysis) :
    outputs view a.concealed = outputs view a := by
  have hrows : (a.configuration.outputs.map OutputEntry.concealed).values.map outputRow =
      a.configuration.outputs.values.map outputRow := by
    rw [KeyMap.values_map, List.map_map]
    exact List.map_congr_left fun e _ => outputRow_concealed e
  simp only [outputs, Analysis.concealed, Configuration.concealed, KeyMap.isEmpty_map, hrows]

def textBefore (view : View) (a : Analysis) : String :=
  part (header view a) ++ part (summary view a) ++
    (if a.hasParseErrors then part (parseErrors view a) else "") ++
    (if a.warnings.isEmpty then "" else part (warnings view a)) ++
    part (resources view a)

def textAfter (view : View) (a : Analysis) : String :=
  part (outputs view a) ++ part (modules view a) ++ part (locals view a) ++
    part (dependencies view a) ++ footer view a

theorem analysisText_eq (view : View) (a : Analysis) :
    analysisText view a =
      textBefore view a ++ (part (variableSection view a) ++ textAfter view a) := by
  simp only [analysisText, textBefore, textAfter, String.append_assoc]

theorem textBefore_concealed (view : View) (a : Analysis) :
    textBefore view a.concealed = textBefore view a := by
  have hsummary : summary view a.concealed = summary view a := by
    have hinputs : a.concealed.configuration.inputs.size = a.configuration.inputs.size :=
      KeyMap.size_map _ _
    have houtputs : a.concealed.configuration.outputs.size = a.configuration.outputs.size :=
      KeyMap.size_map _ _
    have hvalues : a.concealed.configuration.variableValues.size =
        a.configuration.variableValues.size := KeyMap.size_mapWithKey _ _
    have herrors : a.concealed.parseErrors = a.parseErrors := rfl
    unfold summary
    dsimp only
    rw [hinputs, houtputs, hvalues, herrors]
    dsimp only [Analysis.concealed, Configuration.concealed]
  unfold textBefore
  rw [hsummary]
  rfl

theorem textAfter_concealed (view : View) (a : Analysis) :
    textAfter view a.concealed = textAfter view a := by
  have hfooter : footer view a.concealed = footer view a := by
    have hempty : a.configuration.concealed.isEmpty = a.configuration.isEmpty := by
      simp only [Configuration.isEmpty, Configuration.concealed, KeyMap.isEmpty_map,
        KeyMap.isEmpty_mapWithKey]
    unfold footer
    rw [show a.concealed.configuration = a.configuration.concealed from rfl, hempty]
    rfl
  unfold textAfter
  rw [hfooter, outputs_concealed]
  rfl

/-! ### The table of variables -/

/-- What the table of variables says about the value of one. -/
def shownDefault (c : Configuration) (e : VariableEntry) : String :=
  defaultCell (c.variableValues.get? e.name) e.default

/-- What the table of variables says about the values of the sensitive ones, in order. -/
def secretCells (c : Configuration) : List String :=
  (c.inputs.values.filter (·.sensitive = some true)).map (shownDefault c)

def variableTable (c : Configuration) : Table :=
  ⟨["Name", "Type", "Default", "Location"], c.inputs.values.map (variableRow c)⟩

variable {a a' : Analysis}

theorem inputs_concealed_eq (h : a.concealed = a'.concealed) :
    List.Forall₂ (fun e e' : VariableEntry => e.concealed = e'.concealed)
      a.configuration.inputs.values a'.configuration.inputs.values := by
  have hvalues : (a.configuration.inputs.map VariableEntry.concealed).values =
      (a'.configuration.inputs.map VariableEntry.concealed).values :=
    congrArg (·.configuration.inputs.values) h
  rw [KeyMap.values_map, KeyMap.values_map] at hvalues
  rw [← List.forall₂_map_right_iff, ← List.forall₂_map_left_iff (f := VariableEntry.concealed),
    List.forall₂_eq_eq_eq]
  exact hvalues

theorem part_tableSection (view : View) (title : String) (t : Table) :
    part (tableSection view title t) = sectionTitle view title ++ t.text ++ "\n" ++ "\n" := by
  have hne : (tableSection view title t).isEmpty = false := by
    rw [Bool.eq_false_iff]
    intro hempty
    have hparts := String.append_eq_empty_iff.mp (String.isEmpty_iff.mp hempty)
    exact absurd hparts.2 (by decide)
  rw [part, hne]
  rfl

/-- Apart from the table of variables, reports of analyses that differ in sensitive values only are
  the same. -/
theorem analysisText_eq_iff (view : View) (h : a.concealed = a'.concealed) :
    analysisText view a = analysisText view a' ↔
      (variableTable a.configuration).text = (variableTable a'.configuration).text := by
  have hempty : a.configuration.inputs.isEmpty = a'.configuration.inputs.isEmpty := by
    have hinputs := congrArg (·.configuration.inputs.isEmpty) h
    dsimp only [Analysis.concealed, Configuration.concealed] at hinputs
    rwa [KeyMap.isEmpty_map, KeyMap.isEmpty_map] at hinputs
  rw [analysisText_eq, analysisText_eq, ← textBefore_concealed view a,
    ← textBefore_concealed view a', ← textAfter_concealed view a, ← textAfter_concealed view a', h,
    String.append_right_inj, String.append_left_inj]
  by_cases hnone : a.configuration.inputs.isEmpty
  · have hrows : ∀ c : Configuration, c.inputs.isEmpty →
        variableTable c = ⟨["Name", "Type", "Default", "Location"], []⟩ := by
      intro c hc
      have hentries : c.inputs.entries = [] := List.isEmpty_iff.mp hc
      simp [variableTable, KeyMap.values, hentries]
    rw [hrows _ hnone, hrows _ (hempty ▸ hnone)]
    simp only [variableSection, hnone, ← hempty, if_true]
  · simp only [variableSection, hnone, ← hempty, Bool.false_eq_true, if_false]
    rw [part_tableSection, part_tableSection, String.append_left_inj, String.append_left_inj,
      String.append_right_inj]
    rfl

theorem singleLine_truncated (limit : Nat) (s : String) :
    Table.SingleLine (truncated limit s) := by
  have hflat : '\n' ∉ Text.replaceAll ['\n'] [' '] s.toList := by
    rw [Text.replaceAll_singleton, List.mem_flatMap]
    rintro ⟨c, -, hc⟩
    split at hc
    · simp at hc
    next hne => exact hne (List.mem_singleton.mp hc).symm
  unfold Table.SingleLine truncated
  dsimp only
  split
  · simpa using hflat
  · rw [String.toList_ofList, List.mem_append]
    rintro (h | h)
    · exact hflat (List.mem_of_mem_take h)
    · revert h
      decide

theorem singleLine_shownDefault (c : Configuration) (e : VariableEntry) :
    Table.SingleLine (shownDefault c e) := by
  unfold shownDefault defaultCell
  split
  · intro h
    rw [String.toList_append, List.mem_append] at h
    rcases h with h | h
    · exact singleLine_truncated _ _ h
    · revert h
      decide
  · exact singleLine_truncated _ _
  · unfold Table.SingleLine
    decide

/-- The rows of two variables that differ in a sensitive value only differ in one cell. -/
theorem apart_variableRow {c c' : Configuration} {e e' : VariableEntry}
    (h : e.concealed = e'.concealed) :
    Table.Apart Table.SingleLine 2 1 (variableRow c e) (variableRow c' e') := by
  obtain ⟨default, rfl⟩ := VariableEntry.exists_of_concealed_eq h
  exact @Table.Apart.intro _ _ 2 1 [_, _] [_] _ _ rfl rfl (singleLine_shownDefault c e)
    (singleLine_shownDefault c' { e with default := default })

/-! ### The cells of sensitive variables -/

section

variable {c c' : Configuration} {es es' : List VariableEntry} {R : String → String → Prop}

/-- Variables that are the same but for sensitive defaults are sensitive alike, so relating the
  cells of the sensitive ones leaves the others out. -/
theorem forall₂_secret_iff
    (h : List.Forall₂ (fun e e' : VariableEntry => e.concealed = e'.concealed) es es') :
    List.Forall₂ R ((es.filter (·.sensitive = some true)).map (shownDefault c))
        ((es'.filter (·.sensitive = some true)).map (shownDefault c')) ↔
      List.Forall₂ (fun e e' => e.sensitive = some true → R (shownDefault c e) (shownDefault c' e'))
        es es' := by
  induction h with
  | nil => simp
  | @cons e e' es es' he _ ih =>
      obtain ⟨default, rfl⟩ := VariableEntry.exists_of_concealed_eq he
      by_cases hsensitive : e.sensitive = some true
      · simp [hsensitive, ih]
      · simp [hsensitive, ih]

end

theorem exists_of_mem_forall₂ {α β : Type} {S : α → β → Prop} {as : List α} {bs : List β}
    (h : List.Forall₂ S as bs) {x : α} (hx : x ∈ as) : ∃ y ∈ bs, S x y := by
  induction h with
  | nil => cases hx
  | @cons x' y' as bs hfirst _ ih =>
      rcases List.mem_cons.mp hx with rfl | hx
      · exact ⟨y', by simp, hfirst⟩
      · obtain ⟨y, hy, hxy⟩ := ih hx
        exact ⟨y, List.mem_cons_of_mem y' hy, hxy⟩

/-- The same variables of two analyses, whose cells agree where they are sensitive. -/
def CellsAgree (a a' : Analysis) : Prop :=
  List.Forall₂ (fun e e' : VariableEntry => e.concealed = e'.concealed ∧ (e.sensitive = some true →
      shownDefault a.configuration e = shownDefault a'.configuration e'))
    a.configuration.inputs.values a'.configuration.inputs.values

/-- A value given to a sensitive variable is shown in the row of that variable, so the given values
  are shown alike wherever they are shown. -/
theorem defaultCell_eq (h : a.concealed = a'.concealed) (hcells : CellsAgree a a') (name : String)
    (default : Option Value) :
    defaultCell (a.configuration.variableValues.get? name) default =
      defaultCell (a'.configuration.variableValues.get? name) default := by
  have hconfiguration : a.configuration.concealed = a'.configuration.concealed :=
    congrArg (·.configuration) h
  by_cases hname : a.configuration.isSecret name
  · obtain ⟨e, he, hsecret⟩ := List.any_eq_true.mp hname
    simp only [Bool.and_eq_true, decide_eq_true_eq, beq_iff_eq] at hsecret
    obtain ⟨hsensitive, rfl⟩ := hsecret
    obtain ⟨e', -, hsame, hcell⟩ := exists_of_mem_forall₂ hcells he
    obtain ⟨default', rfl⟩ := VariableEntry.exists_of_concealed_eq hsame
    have hshown : defaultCell (a.configuration.variableValues.get? e.name) e.default =
        defaultCell (a'.configuration.variableValues.get? e.name) default' := hcell hsensitive
    have hgiven := Configuration.isSome_get?_eq hconfiguration e.name
    -- Whether a value is given is not concealed, so both analyses have one or neither has.
    cases hv : a.configuration.variableValues.get? e.name with
    | none =>
        cases hv' : a'.configuration.variableValues.get? e.name with
        | none => rfl
        | some v' => simp [hv, hv'] at hgiven
    | some v =>
        cases hv' : a'.configuration.variableValues.get? e.name with
        | none => simp [hv, hv'] at hgiven
        | some v' =>
            rw [hv, hv'] at hshown
            exact hshown
  · rw [Configuration.get?_eq_of_not_isSecret hconfiguration hname]

/-- Once the cells of the sensitive variables agree, all cells do. -/
theorem shownDefault_eq (h : a.concealed = a'.concealed) (hcells : CellsAgree a a') :
    List.Forall₂ (fun e e' => shownDefault a.configuration e = shownDefault a'.configuration e')
      a.configuration.inputs.values a'.configuration.inputs.values := by
  apply hcells.imp
  rintro e e' ⟨hsame, hcell⟩
  by_cases hsensitive : e.sensitive = some true
  · exact hcell hsensitive
  · obtain ⟨default, rfl⟩ := VariableEntry.exists_of_concealed_eq hsame
    have hdefault : e.default = default := by
      have hsame' := congrArg (·.default) hsame
      rwa [VariableEntry.concealed, if_neg hsensitive, VariableEntry.concealed,
        if_neg hsensitive] at hsame'
    subst hdefault
    exact defaultCell_eq h hcells e.name e.default

/-! ### What is disclosed -/

theorem variableTable_eq (h : a.concealed = a'.concealed)
    (hcells : secretCells a.configuration = secretCells a'.configuration) :
    variableTable a.configuration = variableTable a'.configuration := by
  have hvariables := inputs_concealed_eq h
  have hsecret : List.Forall₂ (· = ·) (secretCells a.configuration)
      (secretCells a'.configuration) := by
    rw [List.forall₂_eq_eq_eq]
    exact hcells
  have hagree : CellsAgree a a' :=
    List.Forall₂.mp (fun _ _ hsame hcell => ⟨hsame, hcell⟩) hvariables
      ((forall₂_secret_iff hvariables).mp hsecret)
  have hrows : List.Forall₂
      (fun e e' => variableRow a.configuration e = variableRow a'.configuration e')
      a.configuration.inputs.values a'.configuration.inputs.values := by
    refine List.Forall₂.mp ?_ hvariables (shownDefault_eq h hagree)
    intro e e' hsame hshown
    obtain ⟨default, rfl⟩ := VariableEntry.exists_of_concealed_eq hsame
    unfold shownDefault at hshown
    rw [variableRow, variableRow, hshown]
  rw [← List.forall₂_map_right_iff, ← List.forall₂_map_left_iff, List.forall₂_eq_eq_eq] at hrows
  rw [variableTable, variableTable, hrows]

theorem alikeButBlanks_of_variableTable (h : a.concealed = a'.concealed)
    (htext : (variableTable a.configuration).text = (variableTable a'.configuration).text) :
    List.Forall₂ (fun cell cell' => Table.AlikeButBlanks cell.toList cell'.toList)
      (secretCells a.configuration) (secretCells a'.configuration) := by
  have hvariables := inputs_concealed_eq h
  have hheader : Table.Apart Table.SingleLine 2 1 (variableTable a.configuration).header
      (variableTable a'.configuration).header :=
    @Table.Apart.intro _ _ 2 1 ["Name", "Type"] ["Location"] "Default" "Default" rfl rfl
      (by unfold Table.SingleLine; decide) (by unfold Table.SingleLine; decide)
  have hrows : List.Forall₂ (Table.Apart Table.SingleLine 2 1) (variableTable a.configuration).rows
      (variableTable a'.configuration).rows := by
    unfold variableTable
    rw [List.forall₂_map_left_iff, List.forall₂_map_right_iff]
    exact hvariables.imp fun _ _ => apart_variableRow
  have hsame : (variableTable a.configuration).header =
      (variableTable a'.configuration).header := rfl
  have hcells := Table.alikeButBlanks_of_text_eq hsame hheader hrows htext
  unfold variableTable at hcells
  rw [List.forall₂_map_left_iff, List.forall₂_map_right_iff] at hcells
  refine (forall₂_secret_iff hvariables).mpr (hcells.imp ?_)
  intro e e' hcell _
  exact hcell

/-- Of the sensitive values, the text of a report discloses what the table of variables says about
  those of sensitive variables, up to blanks at the ends of its cells, and nothing else. -/
theorem write_text_discloses (h : a.concealed = a'.concealed) (o : OutputOptions)
    (terminal strict : Bool) (timestamp : String) :
    (secretCells a.configuration = secretCells a'.configuration →
      write o terminal strict timestamp a .text = write o terminal strict timestamp a' .text) ∧
    (write o terminal strict timestamp a .text = write o terminal strict timestamp a' .text →
      List.Forall₂ (fun cell cell' => Table.AlikeButBlanks cell.toList cell'.toList)
        (secretCells a.configuration) (secretCells a'.configuration)) := by
  constructor
  · intro hcells
    apply (analysisText_eq_iff _ h).mpr
    rw [variableTable_eq h hcells]
  · intro htext
    exact alikeButBlanks_of_variableTable h ((analysisText_eq_iff _ h).mp htext)

/-- A configuration with a sensitive variable and a sensitive output. -/
def loginAnalysis (password token : String) : Analysis :=
  ⟨⟨"live"⟩, [⟨"live/main.tf"⟩],
    { Configuration.empty with
      inputs := KeyMap.ofList [("password",
        ⟨"password", none, some "string", some (.string password), some true, false,
          ⟨⟨"live/main.tf"⟩, 1⟩⟩)]
      outputs := KeyMap.ofList [("token",
        ⟨"token", none, some token, some true, ⟨⟨"live/main.tf"⟩, 6⟩⟩)] },
    [], .empty⟩

theorem concealed_loginAnalysis (password password' token token' : String) :
    (loginAnalysis password token).concealed = (loginAnalysis password' token').concealed := rfl

theorem secretCells_loginAnalysis (password token : String) :
    secretCells (loginAnalysis password token).configuration =
      [truncated 30 (Text.quotedString password)] := rfl

theorem write_text_discloses_loginAnalysis :
    (loginAnalysis "hunter2" "aws_db.main.a").concealed =
        (loginAnalysis "hunter2" "aws_db.main.b").concealed ∧
      write {} false false "" (loginAnalysis "hunter2" "aws_db.main.a") .text =
        write {} false false "" (loginAnalysis "hunter2" "aws_db.main.b") .text := by
  have hconcealed := concealed_loginAnalysis "hunter2" "hunter2" "aws_db.main.a" "aws_db.main.b"
  refine ⟨hconcealed, (write_text_discloses hconcealed {} false false "").1 ?_⟩
  rw [secretCells_loginAnalysis, secretCells_loginAnalysis]

/-- A report tells two passwords apart that are the default of a sensitive variable. -/
theorem write_text_loginAnalysis_ne :
    (loginAnalysis "hunter2" "aws_db.main.a").concealed =
        (loginAnalysis "swordfish" "aws_db.main.a").concealed ∧
      write {} false false "" (loginAnalysis "hunter2" "aws_db.main.a") .text ≠
        write {} false false "" (loginAnalysis "swordfish" "aws_db.main.a") .text := by
  have hconcealed := concealed_loginAnalysis "hunter2" "swordfish" "aws_db.main.a" "aws_db.main.a"
  refine ⟨hconcealed, ?_⟩
  intro htext
  have hcells := alikeButBlanks_of_variableTable hconcealed
    ((analysisText_eq_iff _ hconcealed).mp htext)
  rw [secretCells_loginAnalysis, secretCells_loginAnalysis, List.forall₂_cons] at hcells
  obtain ⟨⟨m, n, hcell⟩, -⟩ := hcells
  have hfirst : (truncated 30 (Text.quotedString "hunter2")).toList =
      '"' :: 'h' :: "unter2\"".toList := by decide +kernel
  have hsecond : (truncated 30 (Text.quotedString "swordfish")).toList =
      '"' :: 's' :: "wordfish\"".toList := by decide +kernel
  rw [hfirst, hsecond] at hcell
  simp at hcell

end Report

end Terralens
