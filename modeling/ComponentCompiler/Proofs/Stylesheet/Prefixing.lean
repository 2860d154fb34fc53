import Mathlib.Data.List.Forall2
import Mathlib.Data.List.Nodup
import ComponentCompiler.Component.Finish
import ComponentCompiler.Proofs.Stylesheet.Blocks
import ComponentCompiler.Proofs.Text.LowerCase

/-!
# Prefixed copies

What one pass over a block puts into it: copies in front of declarations, one for
each prefixed name that is called for and not declared.  Without the copies the block
is what it was, and no copy calls for another one, so that a second pass finds all
names declared.
-/

namespace ComponentCompiler.Stylesheet

variable {table : PrefixTable} {d : Declaration} {name : Text} {present : List Text}
  {nodes : List Node}

/-! ## Names that are called for -/

/-- The names that a declaration calls for, in the order of its prefixes. -/
def PrefixTable.wanted (table : PrefixTable) (d : Declaration) : List Text :=
  (table.prefixes d.name).map (· ++ d.name)

/-- A declaration under another name, with a semicolon of its own. -/
def copyUnder (name : Text) (d : Declaration) : Declaration :=
  { d with prop := name, semicolon := true }

/-- The names of the declarations among the statements. -/
def names (nodes : List Node) : List Text := (declarations nodes).map (·.name)

/-- Whether all prefixes are in lower case and no prefixed name is listed itself. -/
def PrefixTable.IsRegular (table : PrefixTable) : Prop :=
  ∀ entry ∈ table, ∀ vendor ∈ entry.2, Text.lower vendor = vendor ∧
    ∀ other ∈ table, Text.lower other.1 ≠ vendor ++ Text.lower entry.1

instance (table : PrefixTable) : Decidable table.IsRegular :=
  inferInstanceAs (Decidable (∀ entry ∈ table, _))

theorem PrefixTable.prefixes_eq_nil (h : ∀ entry ∈ table, Text.lower entry.1 ≠ name) :
    table.prefixes name = [] := by
  have hnone : table.reverse.find? (fun entry => Text.lower entry.1 == name) = none := by
    rw [List.find?_eq_none]
    exact fun entry hentry => by simpa using h entry (List.mem_reverse.mp hentry)
  rw [prefixes, hnone]

theorem PrefixTable.exists_entry_of_mem_prefixes {vendor : Text}
    (h : vendor ∈ table.prefixes name) :
    ∃ entry ∈ table, Text.lower entry.1 = name ∧ vendor ∈ entry.2 := by
  rw [prefixes] at h
  split at h
  · rename_i entry hentry
    have hname := List.find?_some hentry
    exact ⟨entry, List.mem_reverse.mp (List.mem_of_find?_eq_some hentry), eq_of_beq hname, h⟩
  · exact absurd h List.not_mem_nil

/-- A copy is found under its name. -/
theorem name_copyUnder (hregular : table.IsRegular) (h : name ∈ table.wanted d) :
    (copyUnder name d).name = name := by
  obtain ⟨vendor, hvendor, rfl⟩ := List.mem_map.mp h
  obtain ⟨entry, hentry, -, hmem⟩ := PrefixTable.exists_entry_of_mem_prefixes hvendor
  exact Text.lower_append_lower (hregular entry hentry vendor hmem).1 d.prop

/-- A copy does not call for copies. -/
theorem wanted_copyUnder (hregular : table.IsRegular) (h : name ∈ table.wanted d) :
    table.wanted (copyUnder name d) = [] := by
  have hname := name_copyUnder hregular h
  obtain ⟨vendor, hvendor, rfl⟩ := List.mem_map.mp h
  obtain ⟨entry, hentry, hlower, hmem⟩ := PrefixTable.exists_entry_of_mem_prefixes hvendor
  have hnone : table.prefixes (vendor ++ d.name) = [] := by
    refine PrefixTable.prefixes_eq_nil fun other hother => ?_
    rw [← hlower]
    exact (hregular entry hentry vendor hmem).2 other hother
  rw [PrefixTable.wanted, hname, hnone, List.map_nil]

/-! ## The copies of one declaration -/

theorem prefixedCopies_append (d : Declaration) (present vendors more : List Text) :
    prefixedCopies d present (vendors ++ more) =
      ((prefixedCopies d present vendors).1 ++
          (prefixedCopies d (prefixedCopies d present vendors).2 more).1,
        (prefixedCopies d (prefixedCopies d present vendors).2 more).2) := by
  induction vendors generalizing present with
  | nil => rfl
  | cons vendor vendors ih =>
      rw [List.cons_append, prefixedCopies, prefixedCopies]
      dsimp only
      split
      · exact ih present
      · rw [ih]
        rfl

/-- Afterwards all names that were called for are present. -/
theorem mem_prefixedCopies_snd {vendors : List Text} :
    name ∈ (prefixedCopies d present vendors).2 ↔
      name ∈ present ∨ name ∈ vendors.map (· ++ d.name) := by
  induction vendors generalizing present with
  | nil => simp [prefixedCopies]
  | cons vendor vendors ih =>
      rw [prefixedCopies, List.map_cons, List.mem_cons]
      dsimp only
      split
      · rename_i hmem
        rw [ih]
        constructor
        · exact Or.imp_right Or.inr
        · rintro (hpresent | rfl | hmore)
          · exact Or.inl hpresent
          · exact Or.inl hmem
          · exact Or.inr hmore
      · rw [ih, List.mem_cons, or_left_comm, or_assoc]

theorem exists_of_mem_prefixedCopies {vendors : List Text} {copy : Declaration}
    (h : copy ∈ (prefixedCopies d present vendors).1) :
    copy = copyUnder copy.prop d ∧ copy.prop ∈ vendors.map (· ++ d.name) ∧
      copy.prop ∉ present := by
  induction vendors generalizing present with
  | nil => exact absurd h List.not_mem_nil
  | cons vendor vendors ih =>
      rw [prefixedCopies] at h
      dsimp only at h
      split at h
      · obtain ⟨hcopy, hmem, hnew⟩ := ih h
        exact ⟨hcopy, List.mem_cons_of_mem _ hmem, hnew⟩
      · rename_i hnew
        rcases List.mem_cons.mp h with rfl | hmore
        · exact ⟨rfl, List.mem_cons_self, hnew⟩
        · obtain ⟨hcopy, hmem, hother⟩ := ih hmore
          exact ⟨hcopy, List.mem_cons_of_mem _ hmem, fun hpresent =>
            hother (List.mem_cons_of_mem _ hpresent)⟩

/-- The copy under a name that is not present stands between those for the prefixes
before and after the one that gives the name first. -/
theorem prefixedCopies_eq_of_mem {vendors : List Text}
    (hmem : name ∈ vendors.map (· ++ d.name)) (hnew : name ∉ present) :
    ∃ front vendor back earlier later, vendors = front ++ vendor :: back ∧
      name = vendor ++ d.name ∧
      (prefixedCopies d present vendors).1 = earlier ++ copyUnder name d :: later ∧
      (∀ copy ∈ earlier, copy.prop ∈ front.map (· ++ d.name)) ∧
      name ∉ front.map (· ++ d.name) ∧
      ∀ copy ∈ later, copy.prop ∈ back.map (· ++ d.name) ∧ copy.prop ≠ name ∧
        copy.prop ∉ front.map (· ++ d.name) := by
  obtain ⟨wantedFront, wantedBack, hsplit, hfirst⟩ := List.eq_append_cons_of_mem hmem
  obtain ⟨front, rest, rfl, rfl, hrest⟩ := List.map_eq_append_iff.mp hsplit
  obtain ⟨vendor, back, rfl, rfl, rfl⟩ := List.map_eq_cons_iff.mp hrest
  have habsent : vendor ++ d.name ∉ (prefixedCopies d present front).2 := by
    rw [mem_prefixedCopies_snd]
    exact not_or.mpr ⟨hnew, hfirst⟩
  have hcopies : (prefixedCopies d present (front ++ vendor :: back)).1 =
      (prefixedCopies d present front).1 ++ copyUnder (vendor ++ d.name) d ::
        (prefixedCopies d ((vendor ++ d.name) :: (prefixedCopies d present front).2) back).1 := by
    rw [prefixedCopies_append, prefixedCopies]
    dsimp only
    rw [if_neg habsent]
    rfl
  refine ⟨front, vendor, back, _, _, rfl, rfl, hcopies, fun copy hcopy =>
    (exists_of_mem_prefixedCopies hcopy).2.1, hfirst, fun copy hcopy => ?_⟩
  obtain ⟨-, hback, hother⟩ := exists_of_mem_prefixedCopies hcopy
  rw [List.mem_cons, mem_prefixedCopies_snd, not_or, not_or] at hother
  exact ⟨hback, hother.1, hother.2.2⟩

theorem mem_props_prefixedCopies {vendors : List Text} :
    name ∈ (prefixedCopies d present vendors).1.map (·.prop) ↔
      name ∈ vendors.map (· ++ d.name) ∧ name ∉ present := by
  constructor
  · intro h
    obtain ⟨copy, hcopy, rfl⟩ := List.mem_map.mp h
    exact (exists_of_mem_prefixedCopies hcopy).2
  · rintro ⟨hmem, hnew⟩
    obtain ⟨front, vendor, back, earlier, later, -, -, hcopies, -⟩ :=
      prefixedCopies_eq_of_mem hmem hnew
    rw [hcopies]
    simp [copyUnder]

theorem nodup_props_prefixedCopies (d : Declaration) (present vendors : List Text) :
    ((prefixedCopies d present vendors).1.map (·.prop)).Nodup := by
  induction vendors generalizing present with
  | nil => exact List.nodup_nil
  | cons vendor vendors ih =>
      rw [prefixedCopies]
      dsimp only
      split
      · exact ih present
      · refine List.nodup_cons.mpr ⟨fun hmem => ?_, ih _⟩
        exact (mem_props_prefixedCopies.mp hmem).2 List.mem_cons_self

theorem prefixedCopies_of_forall_mem {vendors : List Text}
    (h : ∀ name ∈ vendors.map (· ++ d.name), name ∈ present) :
    prefixedCopies d present vendors = ([], present) := by
  induction vendors with
  | nil => rfl
  | cons vendor vendors ih =>
      rw [List.map_cons, List.forall_mem_cons] at h
      rw [prefixedCopies]
      dsimp only
      rw [if_pos h.1, ih h.2]

/-! ## The copies of a block -/

/-- Each statement with the copies put in front of it. -/
def withCopies (table : PrefixTable) (present : List Text) :
    List Node → List (List Declaration × Node)
  | [] => []
  | .declaration d :: rest =>
      let (copies, present') := prefixedCopies d present (table.prefixes d.name)
      (copies, .declaration d) :: withCopies table present' rest
  | node :: rest => ([], node) :: withCopies table present rest

/-- The statements with their copies in one list. -/
def interleave (copied : List (List Declaration × Node)) : List Node :=
  copied.flatMap fun (copies, node) => copies.map .declaration ++ [node]

theorem prefixStatements_eq_interleave (table : PrefixTable) (present : List Text)
    (nodes : List Node) :
    prefixStatements table present nodes = interleave (withCopies table present nodes) := by
  fun_induction prefixStatements table present nodes with
  | case1 => rfl
  | case2 present d rest copies present' hcopies ih =>
      rw [withCopies, hcopies, ih, interleave, interleave]
      simp
  | case3 present node rest hother ih =>
      rw [withCopies, ih, interleave, interleave]
      · rfl
      · exact hother

theorem withCopies_of_declaration? {node : Node} (h : node.declaration? = none)
    (table : PrefixTable) (present : List Text) (rest : List Node) :
    withCopies table present (node :: rest) = ([], node) :: withCopies table present rest := by
  cases node <;> first | rfl | cases h

/-- The names of the copies, in their order. -/
def copyNames (copied : List (List Declaration × Node)) : List Text :=
  copied.flatMap fun entry => entry.1.map (·.prop)

theorem map_snd_withCopies (table : PrefixTable) (present : List Text) (nodes : List Node) :
    (withCopies table present nodes).map (·.2) = nodes := by
  fun_induction withCopies table present nodes with
  | case1 => rfl
  | case2 present d rest copies present' hcopies ih => rw [List.map_cons, ih]
  | case3 present node rest hother ih => rw [List.map_cons, ih]

theorem mem_of_mem_withCopies {entry : List Declaration × Node}
    (hentry : entry ∈ withCopies table present nodes) : entry.2 ∈ nodes := by
  rw [← map_snd_withCopies table present nodes]
  exact List.mem_map_of_mem hentry

theorem exists_of_mem_withCopies {entry : List Declaration × Node}
    (hentry : entry ∈ withCopies table present nodes) {copy : Declaration}
    (hcopy : copy ∈ entry.1) :
    ∃ d, entry.2 = .declaration d ∧ copy = copyUnder copy.prop d ∧
      copy.prop ∈ table.wanted d ∧ copy.prop ∉ present := by
  fun_induction withCopies table present nodes with
  | case1 => exact absurd hentry List.not_mem_nil
  | case2 present d rest copies present' hcopies ih =>
      obtain ⟨rfl, rfl⟩ := Prod.ext_iff.mp hcopies
      rcases List.mem_cons.mp hentry with rfl | hrest
      · exact ⟨d, rfl, exists_of_mem_prefixedCopies hcopy⟩
      · obtain ⟨e, hnode, hcopy, hwanted, hnew⟩ := ih hrest
        exact ⟨e, hnode, hcopy, hwanted, fun hpresent =>
          hnew (mem_prefixedCopies_snd.mpr (Or.inl hpresent))⟩
  | case3 present node rest hother ih =>
      rcases List.mem_cons.mp hentry with rfl | hrest
      · exact absurd hcopy List.not_mem_nil
      · exact ih hrest

@[simp]
theorem declarations_cons_declaration (d : Declaration) (rest : List Node) :
    declarations (.declaration d :: rest) = d :: declarations rest := rfl

theorem declarations_cons_other {node : Node} (h : ∀ d, node ≠ .declaration d)
    (rest : List Node) : declarations (node :: rest) = declarations rest := by
  cases node with
  | declaration d => exact absurd rfl (h d)
  | comment | raw | rule | atBlock | atStatement => rfl

/-- Copies stand for the names that are called for and not present. -/
theorem mem_copyNames_withCopies :
    name ∈ copyNames (withCopies table present nodes) ↔
      name ∉ present ∧ ∃ d ∈ declarations nodes, name ∈ table.wanted d := by
  fun_induction withCopies table present nodes with
  | case1 => simp [copyNames, declarations]
  | case2 present d rest copies present' hcopies ih =>
      obtain ⟨rfl, rfl⟩ := Prod.ext_iff.mp hcopies
      rw [copyNames, List.flatMap_cons, List.mem_append, ← copyNames, ih,
        mem_props_prefixedCopies, mem_prefixedCopies_snd, declarations_cons_declaration,
        List.exists_mem_cons_iff, ← PrefixTable.wanted]
      tauto
  | case3 present node rest hother ih =>
      rw [copyNames, List.flatMap_cons, List.map_nil, List.nil_append, ← copyNames, ih,
        declarations_cons_other hother]

theorem nodup_copyNames_withCopies (table : PrefixTable) (present : List Text)
    (nodes : List Node) : (copyNames (withCopies table present nodes)).Nodup := by
  fun_induction withCopies table present nodes with
  | case1 => exact List.nodup_nil
  | case2 present d rest copies present' hcopies ih =>
      obtain ⟨rfl, rfl⟩ := Prod.ext_iff.mp hcopies
      rw [copyNames, List.flatMap_cons, ← copyNames]
      refine List.nodup_append.mpr ⟨nodup_props_prefixedCopies _ _ _, ih, ?_⟩
      rintro name hhere _ hlater rfl
      obtain ⟨hnew, -⟩ := mem_copyNames_withCopies.mp hlater
      exact hnew (mem_prefixedCopies_snd.mpr (Or.inr (mem_props_prefixedCopies.mp hhere).1))
  | case3 present node rest hother ih => exact ih

/-- The copy under a name stands in front of the first declaration that calls for it. -/
theorem withCopies_eq_of_mem (hwanted : ∃ d ∈ declarations nodes, name ∈ table.wanted d)
    (hnew : name ∉ present) :
    ∃ front e here back present',
      withCopies table present nodes = front ++ (here, .declaration e) :: back ∧
      (∀ entry ∈ front, ∀ d, entry.2 = .declaration d → name ∉ table.wanted d) ∧
      here = (prefixedCopies e present' (table.prefixes e.name)).1 ∧
      name ∈ table.wanted e ∧ name ∉ present' := by
  fun_induction withCopies table present nodes with
  | case1 =>
      obtain ⟨d, hd, -⟩ := hwanted
      exact absurd hd List.not_mem_nil
  | case2 present d rest copies present' hcopies ih =>
      obtain ⟨rfl, rfl⟩ := Prod.ext_iff.mp hcopies
      by_cases hhere : name ∈ table.wanted d
      · exact ⟨[], d, _, _, present, rfl, fun _ hentry => absurd hentry List.not_mem_nil, rfl,
          hhere, hnew⟩
      · rw [declarations_cons_declaration, List.exists_mem_cons_iff] at hwanted
        have hlater : name ∉ (prefixedCopies d present (table.prefixes d.name)).2 := by
          rw [mem_prefixedCopies_snd]
          exact not_or.mpr ⟨hnew, hhere⟩
        obtain ⟨front, e, here, back, before, heq, hfront, hrest⟩ :=
          ih (hwanted.resolve_left hhere) hlater
        refine ⟨_ :: front, e, here, back, before, congrArg (_ :: ·) heq, ?_, hrest⟩
        refine List.forall_mem_cons.mpr ⟨fun other hother => ?_, hfront⟩
        obtain rfl := Node.declaration.inj hother
        exact hhere
  | case3 present node rest hother ih =>
      rw [declarations_cons_other hother] at hwanted
      obtain ⟨front, e, here, back, before, heq, hfront, hrest⟩ := ih hwanted hnew
      refine ⟨_ :: front, e, here, back, before, congrArg (_ :: ·) heq, ?_, hrest⟩
      exact List.forall_mem_cons.mpr ⟨fun d hd => absurd hd (hother d), hfront⟩

/-! ## A block with its copies -/

theorem declarations_append (nodes rest : List Node) :
    declarations (nodes ++ rest) = declarations nodes ++ declarations rest :=
  List.filterMap_append

theorem names_append (nodes rest : List Node) :
    names (nodes ++ rest) = names nodes ++ names rest := by
  rw [names, declarations_append, List.map_append, ← names, ← names]

theorem declarations_map_declaration (copies : List Declaration) :
    declarations (copies.map .declaration) = copies := by
  rw [declarations, List.filterMap_map]
  exact List.filterMap_some

theorem interleave_cons (copies : List Declaration) (node : Node)
    (copied : List (List Declaration × Node)) :
    interleave ((copies, node) :: copied) =
      copies.map .declaration ++ ([node] ++ interleave copied) := by
  rw [interleave, List.flatMap_cons, ← interleave, List.append_assoc]

/-- Copies that are found under their names add to the names of the block. -/
theorem count_names_interleave {copied : List (List Declaration × Node)}
    (hcopies : ∀ entry ∈ copied, ∀ copy ∈ entry.1, copy.name = copy.prop) (name : Text) :
    (names (interleave copied)).count name =
      (copyNames copied).count name + (names (copied.map (·.2))).count name := by
  induction copied with
  | nil => rfl
  | cons entry copied ih =>
      obtain ⟨copies, node⟩ := entry
      rw [List.forall_mem_cons] at hcopies
      have hhere : names (copies.map .declaration) = copies.map (·.prop) := by
        rw [names, declarations_map_declaration, List.map_congr_left hcopies.1]
      have hnode : names ((copies, node) :: copied |>.map (·.2)) =
          names [node] ++ names (copied.map (·.2)) := names_append [node] _
      rw [interleave_cons, names_append, names_append, hhere, hnode, copyNames, List.flatMap_cons,
        ← copyNames, List.count_append, List.count_append, List.count_append, List.count_append,
        ih hcopies.2]
      dsimp only
      omega

theorem blocksOf_interleave (copied : List (List Declaration × Node)) :
    blocksOf (interleave copied) = blocksOf (copied.map (·.2)) := by
  have hcopies : ∀ copies : List Declaration,
      (copies.map Node.declaration).flatMap (·.blocks) = [] := by
    intro copies
    simp [List.flatMap_map, Node.blocks]
  induction copied with
  | nil => rfl
  | cons entry copied ih =>
      rw [blocksOf_eq_flatMap] at ih ⊢
      rw [interleave_cons, List.flatMap_append, List.flatMap_append, hcopies, ih, List.nil_append,
        List.map_cons, blocksOf, blocksOf_eq_flatMap, List.flatMap_singleton]

theorem prefixBlock_eq_interleave (table : PrefixTable) (nodes : List Node) :
    prefixBlock table nodes = interleave (withCopies table (names nodes) nodes) :=
  prefixStatements_eq_interleave table (names nodes) nodes

theorem blocksOf_prefixBlock (table : PrefixTable) (nodes : List Node) :
    blocksOf (prefixBlock table nodes) = blocksOf nodes := by
  rw [prefixBlock_eq_interleave, blocksOf_interleave, map_snd_withCopies]

/-- The copies do not depend on what is in the blocks of the statements. -/
theorem withCopies_mapBlocksOf (f : List Node → List Node) (table : PrefixTable)
    (present : List Text) (nodes : List Node) :
    withCopies table present (mapBlocksOf f nodes) =
      (withCopies table present nodes).map fun entry => (entry.1, entry.2.mapBlocks f) := by
  rw [mapBlocksOf_eq_map]
  fun_induction withCopies table present nodes with
  | case1 => rfl
  | case2 present d rest copies present' hcopies ih =>
      rw [List.map_cons, List.map_cons, ← ih, Node.mapBlocks, withCopies, hcopies]
      all_goals nofun
  | case3 present node rest hother ih =>
      have hnone : (node.mapBlocks f).declaration? = none := by
        rw [Node.declaration?_mapBlocks]
        cases node with
        | declaration d => exact absurd rfl (hother d)
        | comment | raw | rule | atBlock | atStatement => rfl
      rw [List.map_cons, List.map_cons, ← ih, withCopies_of_declaration? hnone]

theorem mapBlocksOf_interleave (f : List Node → List Node)
    (copied : List (List Declaration × Node)) :
    mapBlocksOf f (interleave copied) =
      interleave (copied.map fun entry => (entry.1, entry.2.mapBlocks f)) := by
  rw [mapBlocksOf_eq_map]
  induction copied with
  | nil => rfl
  | cons entry copied ih =>
      rw [List.map_cons, interleave_cons, interleave_cons, ← ih]
      simp [Node.mapBlocks]

theorem prefixBlock_mapBlocksOf (f : List Node → List Node) (table : PrefixTable)
    (nodes : List Node) :
    prefixBlock table (mapBlocksOf f nodes) =
      interleave (withCopies table (names nodes) (mapBlocksOf f nodes)) := by
  rw [prefixBlock_eq_interleave, names, declarations_mapBlocksOf, ← names]

theorem mapBlocksOf_prefixBlock (f : List Node → List Node) (table : PrefixTable)
    (nodes : List Node) :
    mapBlocksOf f (prefixBlock table nodes) = prefixBlock table (mapBlocksOf f nodes) := by
  rw [prefixBlock_mapBlocksOf, prefixBlock_eq_interleave, mapBlocksOf_interleave,
    withCopies_mapBlocksOf]

/-- Nothing is put into a block that declares all that is called for in it. -/
theorem prefixStatements_of_forall_mem
    (h : ∀ d ∈ declarations nodes, ∀ name ∈ table.wanted d, name ∈ present) :
    prefixStatements table present nodes = nodes := by
  induction nodes with
  | nil => rfl
  | cons node rest ih =>
      cases node with
      | declaration d =>
          rw [declarations_cons_declaration, List.forall_mem_cons] at h
          rw [prefixStatements, prefixedCopies_of_forall_mem h.1]
          dsimp only
          rw [ih h.2]
          rfl
      | comment | raw | rule | atBlock | atStatement =>
          rw [prefixStatements, ih h]
          nofun

theorem mem_declarations_interleave {copied : List (List Declaration × Node)} :
    d ∈ declarations (interleave copied) ↔
      (∃ entry ∈ copied, d ∈ entry.1) ∨ d ∈ declarations (copied.map (·.2)) := by
  induction copied with
  | nil => simp [interleave, declarations]
  | cons entry copied ih =>
      obtain ⟨copies, node⟩ := entry
      have hnode : declarations ((copies, node) :: copied |>.map (·.2)) =
          declarations [node] ++ declarations (copied.map (·.2)) := declarations_append [node] _
      rw [interleave_cons, declarations_append, declarations_append, declarations_map_declaration,
        List.mem_append, List.mem_append, ih, hnode, List.mem_append, List.exists_mem_cons_iff,
        or_assoc]
      exact or_congr_right or_left_comm

theorem name_of_mem_withCopies (hregular : table.IsRegular) {entry : List Declaration × Node}
    (hentry : entry ∈ withCopies table present nodes) {copy : Declaration}
    (hcopy : copy ∈ entry.1) : copy.name = copy.prop := by
  obtain ⟨d, -, hunder, hwanted, -⟩ := exists_of_mem_withCopies hentry hcopy
  have hname := name_copyUnder hregular hwanted
  rwa [← hunder] at hname

/-- How often a name is declared in a block with its copies. -/
theorem count_names_prefixBlock (hregular : table.IsRegular) (nodes : List Node) (name : Text) :
    (names (prefixBlock table nodes)).count name =
      (copyNames (withCopies table (names nodes) nodes)).count name + (names nodes).count name := by
  rw [prefixBlock_eq_interleave, count_names_interleave fun entry hentry copy hcopy =>
    name_of_mem_withCopies hregular hentry hcopy, map_snd_withCopies]

/-- The names called for in a block are declared in it afterwards, as often as before or
once. -/
theorem count_names_of_wanted (hregular : table.IsRegular) (hd : d ∈ declarations nodes)
    (hname : name ∈ table.wanted d) :
    (names (prefixBlock table nodes)).count name =
      if name ∈ names nodes then (names nodes).count name else 1 := by
  rw [count_names_prefixBlock hregular]
  split
  · rename_i hpresent
    have hnone : name ∉ copyNames (withCopies table (names nodes) nodes) := fun hmem =>
      (mem_copyNames_withCopies.mp hmem).1 hpresent
    rw [List.count_eq_zero_of_not_mem hnone, Nat.zero_add]
  · rename_i hnew
    have hcopy : name ∈ copyNames (withCopies table (names nodes) nodes) :=
      mem_copyNames_withCopies.mpr ⟨hnew, d, hd, hname⟩
    rw [List.count_eq_one_of_mem (nodup_copyNames_withCopies _ _ _) hcopy,
      List.count_eq_zero_of_not_mem hnew]

/-- A pass over a block with its copies finds nothing to do. -/
theorem prefixBlock_prefixBlock (hregular : table.IsRegular) (nodes : List Node) :
    prefixBlock table (prefixBlock table nodes) = prefixBlock table nodes := by
  refine prefixStatements_of_forall_mem fun d hd name hname => ?_
  rw [prefixBlock_eq_interleave, mem_declarations_interleave, map_snd_withCopies] at hd
  rcases hd with ⟨entry, hentry, hcopy⟩ | hd
  · obtain ⟨e, -, hunder, hwanted, -⟩ := exists_of_mem_withCopies hentry hcopy
    have hnone := wanted_copyUnder hregular hwanted
    rw [← hunder] at hnone
    rw [hnone] at hname
    exact absurd hname List.not_mem_nil
  · have hcount := count_names_of_wanted hregular hd hname
    refine List.count_pos_iff.mp (Nat.lt_of_lt_of_eq ?_ hcount.symm)
    split
    · rename_i hpresent
      exact List.count_pos_iff.mpr hpresent
    · exact Nat.one_pos

/-! ## A sheet with its copies -/

/-- The copy under a name stands in front of the first declaration that calls for it,
between the copies for the prefixes before and after the one that gives the name. -/
def StandsFirst (table : PrefixTable) (name : Text) (copied : List (List Declaration × Node)) :
    Prop :=
  ∃ front d earlier later back vendors vendor more,
    copied = front ++ (earlier ++ copyUnder name d :: later, .declaration d) :: back ∧
    (∀ entry ∈ front, ∀ other, entry.2 = .declaration other → name ∉ table.wanted other) ∧
    table.prefixes d.name = vendors ++ vendor :: more ∧ name = vendor ++ d.name ∧
    (∀ copy ∈ earlier, copy.prop ∈ vendors.map (· ++ d.name)) ∧
    ∀ copy ∈ later, copy.prop ∈ more.map (· ++ d.name) ∧ copy.prop ∉ vendors.map (· ++ d.name)

/-- The second block is the first one with copies in front of its declarations: one under
each name that is called for and not declared.  What its inner blocks hold is left
open. -/
structure HasCopies (table : PrefixTable) (nodes results : List Node)
    (copied : List (List Declaration × Node)) : Prop where
  results_eq : results = interleave copied
  /-- Without the copies the statements are the same. -/
  kept : copied.map (·.2.hollow) = nodes.map (·.hollow)
  /-- A copy differs from the declaration behind it in its name and its semicolon. -/
  copies : ∀ entry ∈ copied, ∀ copy ∈ entry.1, ∃ d, entry.2 = .declaration d ∧
    copy = copyUnder copy.prop d ∧ copy.prop ∈ table.wanted d ∧ copy.prop ∉ names nodes
  count : ∀ d ∈ declarations nodes, ∀ name ∈ table.wanted d,
    (names results).count name = if name ∈ names nodes then (names nodes).count name else 1
  place : ∀ d ∈ declarations nodes, ∀ name ∈ table.wanted d, name ∉ names nodes →
    StandsFirst table name copied

theorem standsFirst_withCopies (hwanted : ∃ d ∈ declarations nodes, name ∈ table.wanted d)
    (hnew : name ∉ present) : StandsFirst table name (withCopies table present nodes) := by
  obtain ⟨front, d, here, back, before, heq, hfront, rfl, hname, hother⟩ :=
    withCopies_eq_of_mem hwanted hnew
  obtain ⟨vendors, vendor, more, earlier, later, hvendors, hvendor, hcopies, hearlier, -, hlater⟩ :=
    prefixedCopies_eq_of_mem hname hother
  rw [hcopies] at heq
  exact ⟨front, d, earlier, later, back, vendors, vendor, more, heq, hfront, hvendors, hvendor,
    hearlier, fun copy hcopy => ⟨(hlater copy hcopy).1, (hlater copy hcopy).2.2⟩⟩

theorem exists_hasCopies (hregular : table.IsRegular) (f : List Node → List Node)
    (nodes : List Node) :
    ∃ copied, HasCopies table nodes (prefixBlock table (mapBlocksOf f nodes)) copied := by
  have hdeclarations := declarations_mapBlocksOf f nodes
  have hnames : names (mapBlocksOf f nodes) = names nodes :=
    congrArg (List.map Declaration.name) hdeclarations
  refine ⟨withCopies table (names nodes) (mapBlocksOf f nodes), ?_, ?_, ?_, ?_, ?_⟩
  · exact prefixBlock_mapBlocksOf f table nodes
  · have hkept := congrArg (List.map Node.hollow)
      (map_snd_withCopies table (names nodes) (mapBlocksOf f nodes))
    rwa [map_hollow_mapBlocksOf, List.map_map] at hkept
  · exact fun entry hentry copy hcopy => exists_of_mem_withCopies hentry hcopy
  · intro d hd name hname
    rw [← hdeclarations] at hd
    rw [← hnames]
    exact count_names_of_wanted hregular hd hname
  · intro d hd name hname hnew
    rw [← hdeclarations] at hd
    exact standsFirst_withCopies ⟨d, hd, hname⟩ hnew

/-- Prefixing puts copies into the blocks of a sheet and changes nothing else, and doing
it again changes nothing at all, for each table whose prefixed names are in lower case
and call for no copies themselves, as those of the default table. -/
theorem addPrefixes_only_copies :
    (StyleStage.prefixTable Settings.defaultPrefixedProperties).IsRegular ∧
      ∀ (table : PrefixTable) (sheet : Stylesheet), table.IsRegular →
        (sheet.addPrefixes table).after = sheet.after ∧
        List.Forall₂ (fun nodes results => ∃ copied, HasCopies table nodes results copied)
          sheet.containers (sheet.addPrefixes table).containers ∧
        (sheet.addPrefixes table).addPrefixes table = sheet.addPrefixes table := by
  refine ⟨by decide, fun table sheet hregular => ⟨rfl, ?_, ?_⟩⟩
  · rw [addPrefixes, containers_mapContainers (blocksOf_prefixBlock table),
      List.forall₂_map_right_iff, List.forall₂_same]
    exact fun nodes _ => exists_hasCopies hregular _ nodes
  · exact mapContainers_mapContainers (mapBlocksOf_prefixBlock _ table)
      (prefixBlock_prefixBlock hregular) sheet

/-- Two properties with one prefixed name, a prefix that is listed twice, a prefixed name
that is declared after the plain one, and a block inside a block. -/
theorem addPrefixes_only_copies_nested :
    let table : PrefixTable := [("Mask".toList, ["-x-".toList]),
      ("mask".toList, ["-w-".toList, "-m-".toList, "-o-".toList, "-o-".toList]),
      ("k".toList, ["-w-mas".toList])]
    let declare (prop value : String) (semicolon : Bool) : Node :=
      .declaration ⟨[], prop.toList, [':'], value.toList, semicolon⟩
    let sheet : Stylesheet :=
      ⟨[.rule [] ".a".toList [] [declare "K" "0" true, declare "MASK" "1" true,
        declare "-M-mask" "2" true, .rule [' '] ['b'] [] [declare "k" "3" false] []] []], []⟩
    table.IsRegular ∧
      (sheet.addPrefixes table).render =
        ".a\x7b-w-mask:0;K:0;-o-mask:1;MASK:1;-M-mask:2; b\x7b-w-mask:3;k:3\x7d\x7d".toList ∧
      List.Forall₂ (fun nodes results => ∃ copied, HasCopies table nodes results copied)
        sheet.containers (sheet.addPrefixes table).containers ∧
      (sheet.addPrefixes table).addPrefixes table = sheet.addPrefixes table := by
  intro table declare sheet
  have hregular : table.IsRegular := by decide
  obtain ⟨-, hcontainers, htwice⟩ := addPrefixes_only_copies.2 table sheet hregular
  exact ⟨hregular, by decide +kernel, hcontainers, htwice⟩

end ComponentCompiler.Stylesheet
