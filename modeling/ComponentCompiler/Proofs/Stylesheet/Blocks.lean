import ComponentCompiler.Stylesheet.Basic

/-!
# Changes to every block

A change that is made to all blocks of a sheet, inner ones first.  If it leaves the
statements with blocks in their order, the blocks of the result are those of the sheet,
each one changed; if it also can be made twice without effect, so can the whole change.
-/

namespace ComponentCompiler.Stylesheet

variable {f : List Node → List Node}

theorem mapBlocksOf_eq_map (f : List Node → List Node) (nodes : List Node) :
    mapBlocksOf f nodes = nodes.map (·.mapBlocks f) := by
  induction nodes with
  | nil => rfl
  | cons node rest ih => rw [mapBlocksOf, ih, List.map_cons]

theorem blocksOf_eq_flatMap (nodes : List Node) : blocksOf nodes = nodes.flatMap (·.blocks) := by
  induction nodes with
  | nil => rfl
  | cons node rest ih => rw [blocksOf, ih, List.flatMap_cons]

theorem Node.declaration?_mapBlocks (f : List Node → List Node) (node : Node) :
    (node.mapBlocks f).declaration? = node.declaration? := by
  cases node <;> rfl

theorem declarations_mapBlocksOf (f : List Node → List Node) (nodes : List Node) :
    declarations (mapBlocksOf f nodes) = declarations nodes := by
  simp only [declarations, mapBlocksOf_eq_map, List.filterMap_map, Function.comp_def,
    Node.declaration?_mapBlocks]

/-- The statement with nothing in its block. -/
def Node.hollow (node : Node) : Node := node.mapBlocks fun _ => []

theorem Node.hollow_mapBlocks (f : List Node → List Node) (node : Node) :
    (node.mapBlocks f).hollow = node.hollow := by
  cases node <;> rfl

theorem map_hollow_mapBlocksOf (f : List Node → List Node) (nodes : List Node) :
    (mapBlocksOf f nodes).map (·.hollow) = nodes.map (·.hollow) := by
  simp only [mapBlocksOf_eq_map, List.map_map, Function.comp_def, Node.hollow_mapBlocks]

/-! ## The blocks of the result -/

mutual

theorem Node.blocks_mapBlocks (hblocks : ∀ nodes, blocksOf (f nodes) = blocksOf nodes)
    (node : Node) :
    (node.mapBlocks f).blocks = node.blocks.map fun nodes => f (mapBlocksOf f nodes) := by
  cases node with
  | rule before selector between nodes after =>
      rw [Node.mapBlocks, Node.blocks, hblocks, blocksOf_mapBlocksOf hblocks nodes, Node.blocks,
        List.map_cons]
  | atBlock before name params between nodes after =>
      rw [Node.mapBlocks, Node.blocks, hblocks, blocksOf_mapBlocksOf hblocks nodes, Node.blocks,
        List.map_cons]
  | comment | declaration | raw | atStatement => rfl

theorem blocksOf_mapBlocksOf (hblocks : ∀ nodes, blocksOf (f nodes) = blocksOf nodes)
    (nodes : List Node) :
    blocksOf (mapBlocksOf f nodes) =
      (blocksOf nodes).map fun nodes => f (mapBlocksOf f nodes) := by
  cases nodes with
  | nil => rfl
  | cons node rest =>
      rw [mapBlocksOf, blocksOf, Node.blocks_mapBlocks hblocks node,
        blocksOf_mapBlocksOf hblocks rest, blocksOf, List.map_append]

end

theorem containers_mapContainers (hblocks : ∀ nodes, blocksOf (f nodes) = blocksOf nodes)
    (sheet : Stylesheet) :
    (sheet.mapContainers f).containers =
      sheet.containers.map fun nodes => f (mapBlocksOf f nodes) := by
  rw [mapContainers, containers, hblocks, blocksOf_mapBlocksOf hblocks, containers,
    List.map_cons]

/-! ## The change made twice -/

mutual

theorem Node.mapBlocks_mapBlocks
    (hcomm : ∀ nodes, mapBlocksOf f (f nodes) = f (mapBlocksOf f nodes))
    (htwice : ∀ nodes, f (f nodes) = f nodes) (node : Node) :
    (node.mapBlocks f).mapBlocks f = node.mapBlocks f := by
  cases node with
  | rule before selector between nodes after =>
      rw [Node.mapBlocks, Node.mapBlocks, hcomm, htwice, mapBlocksOf_mapBlocksOf hcomm htwice nodes]
  | atBlock before name params between nodes after =>
      rw [Node.mapBlocks, Node.mapBlocks, hcomm, htwice, mapBlocksOf_mapBlocksOf hcomm htwice nodes]
  | comment | declaration | raw | atStatement => rfl

theorem mapBlocksOf_mapBlocksOf
    (hcomm : ∀ nodes, mapBlocksOf f (f nodes) = f (mapBlocksOf f nodes))
    (htwice : ∀ nodes, f (f nodes) = f nodes) (nodes : List Node) :
    mapBlocksOf f (mapBlocksOf f nodes) = mapBlocksOf f nodes := by
  cases nodes with
  | nil => rfl
  | cons node rest =>
      rw [mapBlocksOf, mapBlocksOf, Node.mapBlocks_mapBlocks hcomm htwice node,
        mapBlocksOf_mapBlocksOf hcomm htwice rest]

end

theorem mapContainers_mapContainers
    (hcomm : ∀ nodes, mapBlocksOf f (f nodes) = f (mapBlocksOf f nodes))
    (htwice : ∀ nodes, f (f nodes) = f nodes) (sheet : Stylesheet) :
    (sheet.mapContainers f).mapContainers f = sheet.mapContainers f := by
  simp only [mapContainers, hcomm, htwice, mapBlocksOf_mapBlocksOf hcomm htwice]

end ComponentCompiler.Stylesheet
