import ComponentCompiler.Proofs.Stylesheet.Prefixing

/-!
# Prefixed copies in the cascade

Of several declarations of a property in one block the last one wins.  A prefixed name
is given to a single copy, that of the first declaration which calls for it, so that
under this name the first declaration wins.  Both are the same only for blocks whose
first and last declaration of the property have one value.
-/

namespace ComponentCompiler.Stylesheet

variable {table : PrefixTable} {d : Declaration} {name property vendor : Text}
  {present : List Text} {nodes : List Node}

/-- The declarations of a property among the statements, in their order. -/
def declaring (property : Text) (nodes : List Node) : List Declaration :=
  (declarations nodes).filter (·.name == property)

/-- The value of the first declaration of a property. -/
def firstValue? (property : Text) (nodes : List Node) : Option Text :=
  (declaring property nodes).head?.map (·.value)

/-- The value of the last declaration of a property, which wins over those before it. -/
def winningValue? (property : Text) (nodes : List Node) : Option Text :=
  (declaring property nodes).getLast?.map (·.value)

/-- The name under which a copy of the property is looked up. -/
def prefixedName (vendor property : Text) : Text := Text.lower (vendor ++ property)

/-- Whether the prefixed name is given to no other property of the table. -/
def PrefixTable.GivesAlone (table : PrefixTable) (vendor property : Text) : Prop :=
  ∀ entry ∈ table, ∀ other ∈ table.prefixes (Text.lower entry.1),
    prefixedName other (Text.lower entry.1) = prefixedName vendor property →
      Text.lower entry.1 = property

instance (table : PrefixTable) (vendor property : Text) :
    Decidable (table.GivesAlone vendor property) :=
  inferInstanceAs (Decidable (∀ entry ∈ table, _))

theorem mem_declaring :
    d ∈ declaring property nodes ↔ d ∈ declarations nodes ∧ d.name = property := by
  rw [declaring, List.mem_filter, beq_iff_eq]

/-- All copies stand in front of the first declaration of their property. -/
theorem first_of_mem_withCopies {entry : List Declaration × Node}
    (hentry : entry ∈ withCopies table present nodes) {copy : Declaration}
    (hcopy : copy ∈ entry.1) (hd : entry.2 = .declaration d) :
    (declaring d.name nodes).head? = some d := by
  rw [declaring, List.head?_filter]
  fun_induction withCopies table present nodes with
  | case1 => exact absurd hentry List.not_mem_nil
  | case2 present e rest copies present' hcopies ih =>
      obtain ⟨rfl, rfl⟩ := Prod.ext_iff.mp hcopies
      rw [declarations_cons_declaration]
      rcases List.mem_cons.mp hentry with rfl | hrest
      · obtain rfl := Node.declaration.inj hd
        exact List.find?_cons_of_pos (beq_self_eq_true _)
      · rw [List.find?_cons_of_neg, ih hrest]
        -- The names that `e` calls for are present behind it, that of the copy is not.
        intro hname
        obtain ⟨f, hf, -, hwanted, hnew⟩ := exists_of_mem_withCopies hrest hcopy
        obtain rfl := Node.declaration.inj (hd.symm.trans hf)
        rw [PrefixTable.wanted, ← eq_of_beq hname] at hwanted
        exact hnew (mem_prefixedCopies_snd.mpr (Or.inr hwanted))
  | case3 present node rest hother ih =>
      rw [declarations_cons_other hother]
      rcases List.mem_cons.mp hentry with rfl | hrest
      · exact absurd hcopy List.not_mem_nil
      · exact ih hrest

/-- A declared name is in lower case. -/
theorem lower_of_mem_names (h : name ∈ names nodes) : Text.lower name = name := by
  obtain ⟨d, -, rfl⟩ := List.mem_map.mp h
  exact Text.lower_eq_self_iff.mpr fun _ => Text.isSmall_of_mem_lower

/-- What is found under a prefixed name that the block does not declare is a copy of the
first declaration of the property. -/
theorem head?_declaring_of_prefixed (hnew : prefixedName vendor property ∉ names nodes)
    (halone : table.GivesAlone vendor property)
    (hd : d ∈ declaring (prefixedName vendor property) (prefixBlock table nodes)) :
    ∃ first, (declaring property nodes).head? = some first ∧ d.value = first.value := by
  obtain ⟨hmem, hname⟩ := mem_declaring.mp hd
  rw [prefixBlock_eq_interleave, mem_declarations_interleave, map_snd_withCopies] at hmem
  rcases hmem with ⟨entry, hentry, hcopy⟩ | hwritten
  · obtain ⟨first, hfirst, hunder, hwanted, -⟩ := exists_of_mem_withCopies hentry hcopy
    have hhead := first_of_mem_withCopies hentry hcopy hfirst
    obtain ⟨other, hother, hprop⟩ := List.mem_map.mp hwanted
    obtain ⟨listed, hlisted, hlower, -⟩ := PrefixTable.exists_entry_of_mem_prefixes hother
    have hproperty : first.name = property := by
      rw [← hlower]
      refine halone listed hlisted other (hlower ▸ hother) ?_
      rw [hlower, ← hname, prefixedName, hprop, Declaration.name]
    exact ⟨first, hproperty ▸ hhead, by rw [hunder, copyUnder]⟩
  · exact absurd (List.mem_map.mpr ⟨d, hwritten, hname⟩) hnew

/-- A block that declares a property has a copy of it afterwards under each of its
prefixed names that it does not declare. -/
theorem exists_declaring_prefixed (hvendor : vendor ∈ table.prefixes property)
    (hdeclared : property ∈ names nodes) (hnew : prefixedName vendor property ∉ names nodes) :
    declaring (prefixedName vendor property) (prefixBlock table nodes) ≠ [] := by
  obtain ⟨d, hd, rfl⟩ := List.mem_map.mp hdeclared
  have habsent : vendor ++ d.name ∉ names nodes := fun hmem =>
    hnew (by rwa [prefixedName, lower_of_mem_names hmem])
  have hcopies : vendor ++ d.name ∈ copyNames (withCopies table (names nodes) nodes) :=
    mem_copyNames_withCopies.mpr ⟨habsent, d, hd, List.mem_map.mpr ⟨vendor, hvendor, rfl⟩⟩
  obtain ⟨entry, hentry, hnamed⟩ := List.mem_flatMap.mp hcopies
  obtain ⟨copy, hcopy, hprop⟩ := List.mem_map.mp hnamed
  refine List.ne_nil_of_mem (mem_declaring.mpr ⟨?_, ?_⟩ : copy ∈ _)
  · rw [prefixBlock_eq_interleave, mem_declarations_interleave]
    exact Or.inl ⟨entry, hentry, hcopy⟩
  · rw [Declaration.name, hprop, prefixedName]

/-- Under a prefixed name the first declaration of the property wins. -/
theorem winningValue?_prefixBlock (hvendor : vendor ∈ table.prefixes property)
    (hdeclared : property ∈ names nodes) (hnew : prefixedName vendor property ∉ names nodes)
    (halone : table.GivesAlone vendor property) :
    winningValue? (prefixedName vendor property) (prefixBlock table nodes) =
      firstValue? property nodes := by
  have hne := exists_declaring_prefixed hvendor hdeclared hnew
  obtain ⟨first, hfirst, hvalue⟩ :=
    head?_declaring_of_prefixed hnew halone (List.getLast_mem hne)
  rw [winningValue?, firstValue?, List.getLast?_eq_getLast_of_ne_nil hne, hfirst,
    Option.map_some, hvalue, Option.map_some]

/-- In every block that declares a listed property, but not its prefixed name, which no
other property is given, the first declaration of the property wins under the prefixed
name.  This is what the last one says only if both say the same. -/
theorem addPrefixes_first_wins (table : PrefixTable) (sheet : Stylesheet) :
    List.Forall₂ (fun nodes results => ∀ property vendor, vendor ∈ table.prefixes property →
        property ∈ names nodes → prefixedName vendor property ∉ names nodes →
        table.GivesAlone vendor property →
          (∃ value, firstValue? property nodes = some value ∧
            winningValue? (prefixedName vendor property) results = some value) ∧
          (winningValue? (prefixedName vendor property) results = winningValue? property nodes ↔
            firstValue? property nodes = winningValue? property nodes))
      sheet.containers (sheet.addPrefixes table).containers := by
  rw [addPrefixes, containers_mapContainers (blocksOf_prefixBlock table),
    List.forall₂_map_right_iff, List.forall₂_same]
  intro nodes _ property vendor hvendor hdeclared hnew halone
  have hdeclarations := declarations_mapBlocksOf (prefixBlock table) nodes
  have hnames : names (mapBlocksOf (prefixBlock table) nodes) = names nodes :=
    congrArg (List.map Declaration.name) hdeclarations
  have hfirst : firstValue? property (mapBlocksOf (prefixBlock table) nodes) =
      firstValue? property nodes := by
    rw [firstValue?, declaring, hdeclarations, ← declaring, ← firstValue?]
  have hwins := winningValue?_prefixBlock hvendor (hnames ▸ hdeclared) (hnames ▸ hnew) halone
  rw [hfirst] at hwins
  rw [hwins]
  refine ⟨?_, Iff.rfl⟩
  obtain ⟨d, hd, hname⟩ := List.mem_map.mp hdeclared
  obtain ⟨first, more, hdeclaring⟩ :=
    List.exists_cons_of_ne_nil (List.ne_nil_of_mem (mem_declaring.mpr ⟨hd, hname⟩))
  have hvalue : firstValue? property nodes = some first.value := by
    rw [firstValue?, hdeclaring, List.head?_cons, Option.map_some]
  exact ⟨first.value, hvalue, hvalue⟩

/-- A property that is declared twice, in mixed case and in a block inside a block. -/
theorem addPrefixes_first_wins_nested :
    let table := StyleStage.prefixTable Settings.defaultPrefixedProperties
    let declare (prop value : String) : Node :=
      .declaration ⟨[], prop.toList, [':'], value.toList, true⟩
    let nodes := [declare "MASK" "x", declare "color" "red", declare "mask" "y"]
    let sheet : Stylesheet :=
      ⟨[.atBlock [] "media".toList [] [] [.rule [] ".a".toList [] nodes []] []], []⟩
    "-webkit-".toList ∈ table.prefixes "mask".toList ∧ "mask".toList ∈ names nodes ∧
      prefixedName "-webkit-".toList "mask".toList ∉ names nodes ∧
      table.GivesAlone "-webkit-".toList "mask".toList ∧
      ∃ results ∈ (sheet.addPrefixes table).containers,
        winningValue? (prefixedName "-webkit-".toList "mask".toList) results = some "x".toList ∧
        winningValue? (prefixedName "-webkit-".toList "mask".toList) results ≠
          winningValue? "mask".toList nodes := by
  intro table declare nodes sheet
  have hvendor : "-webkit-".toList ∈ table.prefixes "mask".toList := by decide
  have hdeclared : "mask".toList ∈ names nodes := by decide
  have hnew : prefixedName "-webkit-".toList "mask".toList ∉ names nodes := by decide
  have halone : table.GivesAlone "-webkit-".toList "mask".toList := by decide +kernel
  refine ⟨hvendor, hdeclared, hnew, halone, ?_⟩
  have hblocks := addPrefixes_first_wins table sheet
  generalize (sheet.addPrefixes table).containers = blocks at hblocks ⊢
  change List.Forall₂ _ [_, _, nodes] blocks at hblocks
  obtain _ | ⟨-, hinner⟩ := hblocks
  obtain _ | ⟨-, hinner⟩ := hinner
  obtain _ | ⟨hblock, -⟩ := hinner
  obtain ⟨⟨value, hvalue, hwins⟩, hsame⟩ := hblock _ _ hvendor hdeclared hnew halone
  have hfirst : firstValue? "mask".toList nodes = some "x".toList := by decide
  refine ⟨_, by simp, ?_, fun heq => absurd (hsame.mp heq) (by decide)⟩
  rw [hwins, ← hvalue, hfirst]

/-- Of two declarations the last one wins, but under the prefixed name the first one. -/
theorem winningValue?_ne_of_fallback :
    let table := StyleStage.prefixTable Settings.defaultPrefixedProperties
    let nodes : List Node :=
      [.declaration { prop := "mask".toList, value := ['x'] },
        .declaration { prop := "mask".toList, value := ['y'] }]
    let sheet : Stylesheet := ⟨[.rule [] ".a".toList [] nodes []], []⟩
    "-webkit-".toList ∈ table.prefixes "mask".toList ∧ "mask".toList ∈ names nodes ∧
      prefixedName "-webkit-".toList "mask".toList ∉ names nodes ∧
      table.GivesAlone "-webkit-".toList "mask".toList ∧
      (sheet.addPrefixes table).containers.map
          (winningValue? (prefixedName "-webkit-".toList "mask".toList)) ≠
        (sheet.addPrefixes table).containers.map (winningValue? "mask".toList) := by
  decide +kernel

end ComponentCompiler.Stylesheet
