import Mathlib.Data.List.Chain
import BoltClient.Entity.Graph
import BoltClient.Proofs.Entity.Conversion

/-!
The hops of a path. Its indices are read in pairs, and a pair leads somewhere if its first names
a relationship, counted from one with either sign, and its second a node, counted from zero. The
indices are followed exactly if every pair leads somewhere, each from where the one before it has
led. An index is any number of 64 bits, and following it in words comes to the same.
-/

namespace BoltClient

namespace Path

/-- That two indices name a relationship and a node of a path. -/
structure Leads (path : Path) (along target : Int64) : Prop where
  relationship : 1 ≤ along.toInt.natAbs ∧ along.toInt.natAbs ≤ path.relationships.length
  node : 0 ≤ target.toInt ∧ target.toInt < path.nodes.length

/-- That a hop is along the relationship and to the node that two indices name. -/
structure Follows (path : Path) (along target : Int64) (hop : Segment) : Prop where
  relationship : path.relationships[along.toInt.natAbs - 1]? = some hop.relationship
  finish : path.nodes[target.toInt.toNat]? = some hop.finish
  forward : hop.forward = true ↔ 0 < along.toInt

/-- What holds of each pair of indices and its place; an index without its partner is of none. -/
def EachPair (such : Nat → Int64 → Int64 → Prop) (indices : List Int64) : Prop :=
  ∀ place along target, indices[2 * place]? = some along →
    indices[2 * place + 1]? = some target → such place along target

section EachPair

variable {such : Nat → Int64 → Int64 → Prop}

theorem eachPair_of_short {indices : List Int64} (short : indices.length < 2) :
    EachPair such indices := by
  intro place along target _ partner
  rw [List.getElem?_eq_none (by omega)] at partner
  cases partner

/-- Indices that have no first two are at most one. -/
theorem length_lt_two {indices : List Int64}
    (short : ∀ along target rest, indices = along :: target :: rest → False) :
    indices.length < 2 := by
  rcases indices with _ | ⟨along, _ | ⟨target, rest⟩⟩
  · exact Nat.zero_lt_two
  · exact Nat.one_lt_two
  · exact (short along target rest rfl).elim

theorem eachPair_cons_cons {along target : Int64} {rest : List Int64} :
    EachPair such (along :: target :: rest) ↔
      such 0 along target ∧ EachPair (fun place => such (place + 1)) rest := by
  constructor
  · intro each
    exact ⟨each 0 along target rfl rfl, fun place => each (place + 1)⟩
  · rintro ⟨first, others⟩ (_ | place) one other here there
    · cases here
      cases there
      exact first
    · exact others place one other here there

end EachPair

section Follow

variable {path : Path} {current : Node} {along target : Int64} {rest : List Int64}

theorem relationshipAt?_eq_some_iff {relationship : UnboundRelationship} :
    path.relationshipAt? along = some relationship ↔ 1 ≤ along.toInt.natAbs ∧
      path.relationships[along.toInt.natAbs - 1]? = some relationship := by
  unfold relationshipAt?
  split
  · next none => exact iff_of_false nofun fun found => by omega
  · next position here =>
    rw [here, Nat.succ_eq_add_one, Nat.add_sub_cancel]
    exact (and_iff_right (by omega)).symm

theorem nodeAt?_eq_some_iff {node : Node} : path.nodeAt? target = some node ↔
    0 ≤ target.toInt ∧ path.nodes[target.toInt.toNat]? = some node := by
  unfold nodeAt?
  split
  · next before => exact iff_of_false nofun fun found => by omega
  · next behind => exact (and_iff_right (by omega)).symm

/-- Two indices lead somewhere exactly if both are found. -/
theorem leads_iff : path.Leads along target ↔
    (∃ relationship, path.relationshipAt? along = some relationship) ∧
      ∃ node, path.nodeAt? target = some node := by
  simp only [relationshipAt?_eq_some_iff, nodeAt?_eq_some_iff, exists_and_left,
    ← Option.isSome_iff_exists, isSome_getElem?]
  exact ⟨fun ⟨one, other⟩ => by omega, fun found => ⟨by omega, by omega⟩⟩

/-- The first hop is where the first pair leads, and the others are from there. -/
theorem hops?_cons_cons_eq_some_iff {segments : List Segment} :
    path.hops? current (along :: target :: rest) = some segments ↔
      ∃ hop others, segments = hop :: others ∧ path.Leads along target ∧
        hop.start = current ∧ path.Follows along target hop ∧
        path.hops? hop.finish rest = some others := by
  rw [hops?]
  constructor
  · intro made
    obtain ⟨relationship, one, made⟩ := Option.bind_eq_some_iff.1 made
    obtain ⟨finish, two, made⟩ := Option.bind_eq_some_iff.1 made
    obtain ⟨others, later, same⟩ := Option.bind_eq_some_iff.1 made
    cases same
    refine ⟨_, others, rfl, leads_iff.2 ⟨⟨_, one⟩, _, two⟩, rfl, ?_, later⟩
    exact ⟨(relationshipAt?_eq_some_iff.1 one).2, (nodeAt?_eq_some_iff.1 two).2,
      decide_eq_true_iff⟩
  · rintro ⟨⟨start, relationship, finish, forward⟩, others, rfl, leads, rfl, follows, later⟩
    have one := relationshipAt?_eq_some_iff.2 ⟨leads.relationship.1, follows.relationship⟩
    have two := nodeAt?_eq_some_iff.2 ⟨leads.node.1, follows.finish⟩
    have same : decide (0 < along.toInt) = forward := by
      rw [Bool.eq_iff_iff, decide_eq_true_iff]
      exact follows.forward.symm
    rw [one, Option.bind_eq_bind, Option.bind_some, two, Option.bind_eq_bind, Option.bind_some]
    rw [later, same]
    rfl

/-- Indices can be followed from any node, or from none. -/
theorem hops?_isSome_iff (current : Node) (indices : List Int64) :
    (path.hops? current indices).isSome ↔ EachPair (fun _ => path.Leads) indices := by
  simp only [Option.isSome_iff_exists]
  fun_induction path.hops? current indices with
  | case1 current along target rest ih =>
    rw [eachPair_cons_cons]
    constructor
    · rintro ⟨segments, made⟩
      obtain ⟨hop, others, -, leads, -, -, later⟩ := hops?_cons_cons_eq_some_iff.1 made
      exact ⟨leads, (ih hop.finish).1 ⟨others, later⟩⟩
    · rintro ⟨leads, each⟩
      obtain ⟨⟨relationship, one⟩, finish, two⟩ := leads_iff.1 leads
      obtain ⟨others, later⟩ := (ih finish).2 each
      have follows : path.Follows along target ⟨current, relationship, finish, 0 < along.toInt⟩ :=
        ⟨(relationshipAt?_eq_some_iff.1 one).2, (nodeAt?_eq_some_iff.1 two).2,
          decide_eq_true_iff⟩
      exact ⟨_, hops?_cons_cons_eq_some_iff.2 ⟨_, others, rfl, leads, rfl, follows, later⟩⟩
  | case2 indices current short =>
    exact iff_of_true ⟨[], rfl⟩ (eachPair_of_short (length_lt_two short))

/-- There is a hop for each pair of indices, and each begins where the one before it has led. -/
theorem follows_of_hops? {indices : List Int64} {segments : List Segment}
    (made : path.hops? current indices = some segments) :
    segments.length = indices.length / 2 ∧ (∀ hop ∈ segments.head?, hop.start = current) ∧
    segments.IsChain (fun hop next => next.start = hop.finish) ∧
    EachPair (fun place along target =>
      ∃ hop, segments[place]? = some hop ∧ path.Follows along target hop) indices := by
  fun_induction path.hops? current indices generalizing segments with
  | case1 current along target rest ih =>
    obtain ⟨hop, others, rfl, -, start, follows, later⟩ := hops?_cons_cons_eq_some_iff.1 made
    obtain ⟨count, next, chain, each⟩ := ih hop.finish later
    refine ⟨?_, ?_, List.isChain_cons.2 ⟨next, chain⟩, ?_⟩
    · rw [List.length_cons, List.length_cons, List.length_cons]
      omega
    · rintro _ ⟨⟩
      exact start
    · exact eachPair_cons_cons.2 ⟨⟨hop, rfl, follows⟩, each⟩
  | case2 indices current short =>
    cases made
    have few := length_lt_two short
    exact ⟨(Nat.div_eq_of_lt few).symm, nofun, .nil, eachPair_of_short few⟩

end Follow

/-! Following indices in words. Positions are words up to `most`, and no list is longer. -/

section Words

/-- The magnitude of an index has one bit more than the index. A position that does not fit, and
the one before the first, refuse it. -/
def relationshipInWords? (path : Path) (most : Int) (along : Int64) :
    Option (Option UnboundRelationship) := do
  let magnitude ← Word.held? 0 0xffffffffffffffff along.toInt.natAbs
  return do
    let position ← Word.held? 0 most magnitude
    let place ← Word.held? 0 most (position - 1)
    path.relationships[place.toNat]?

/-- A position that does not fit refuses the index. -/
def nodeInWords? (path : Path) (most : Int) (target : Int64) : Option Node := do
  let place ← Word.held? 0 most target.toInt
  path.nodes[place.toNat]?

/-- Puts one hop behind those gathered for each pair of indices, until one is refused. -/
def hopsInWords? (path : Path) (most : Int) :
    Node → List Segment → List Int64 → Option (Option (List Segment))
  | current, gathered, along :: target :: rest => do
    match ← path.relationshipInWords? most along, path.nodeInWords? most target with
    | some relationship, some finish =>
      hopsInWords? path most finish
        (gathered ++ [⟨current, relationship, finish, 0 < along.toInt⟩]) rest
    | _, _ => return none
  | _, gathered, _ => some (some gathered)

def segmentsInWords? (path : Path) (most : Int) : Option (Option (List Segment)) :=
  match path.start? with
  | some first => path.hopsInWords? most first [] path.indices
  | none => some none

/-- What is looked up at a position that a word does not hold is not there. -/
theorem held?_getElem? {α : Type} {list : List α} {most number : Int} (short : list.length ≤ most) :
    (Word.held? 0 most number).bind (fun place => list[place.toNat]?) =
      if number < 0 then none else list[number.toNat]? := by
  by_cases before : number < 0
  · have refused : Word.held? 0 most number = none := if_neg (by omega)
    rw [if_pos before, refused, Option.bind_none]
  · rw [if_neg before]
    refine Word.held?_bind fun outside => List.getElem?_eq_none ?_
    omega

variable {path : Path} {most : Int}

theorem relationshipInWords?_eq (short : path.relationships.length ≤ most) (along : Int64) :
    path.relationshipInWords? most along = some (path.relationshipAt? along) := by
  obtain ⟨low, high⟩ := Word.bounds along
  have magnitude : Word.held? 0 0xffffffffffffffff along.toInt.natAbs = some _ :=
    Word.held?_eq_some (by omega) (by omega)
  have found : (Word.held? 0 most (along.toInt.natAbs - 1)).bind
      (fun place => path.relationships[place.toNat]?) = path.relationshipAt? along := by
    rw [held?_getElem? short, relationshipAt?]
    split <;> split
    · rfl
    · omega
    · omega
    · next position here =>
      have place : ((along.toInt.natAbs : Int) - 1).toNat = position := by omega
      rw [place]
  have refused : (along.toInt.natAbs : Int) < 0 ∨ most < along.toInt.natAbs →
      path.relationshipAt? along = none := by
    intro outside
    refine Option.eq_none_iff_forall_ne_some.2 fun relationship here => ?_
    obtain ⟨-, there⟩ := relationshipAt?_eq_some_iff.1 here
    rw [List.getElem?_eq_none (by omega)] at there
    cases there
  rw [relationshipInWords?, magnitude]
  refine congrArg some ((Word.held?_bind fun outside => ?_).trans found)
  exact found.trans (refused outside)

theorem nodeInWords?_eq (short : path.nodes.length ≤ most) (target : Int64) :
    path.nodeInWords? most target = path.nodeAt? target :=
  held?_getElem? short

/-- The loop puts what is behind the current node behind what it has gathered. -/
theorem hopsInWords?_eq (relationships : path.relationships.length ≤ most)
    (nodes : path.nodes.length ≤ most) (current : Node) (gathered : List Segment)
    (indices : List Int64) : path.hopsInWords? most current gathered indices =
      some ((path.hops? current indices).map (gathered ++ ·)) := by
  fun_induction path.hops? current indices generalizing gathered with
  | case1 current along target rest ih =>
    rw [hopsInWords?, relationshipInWords?_eq relationships, nodeInWords?_eq nodes]
    cases path.relationshipAt? along with
    | none => rfl
    | some relationship =>
      cases path.nodeAt? target with
      | none => rfl
      | some finish =>
        refine (ih finish _).trans (congrArg some ?_)
        simp only [Option.bind_eq_bind, Option.bind_some]
        cases path.hops? finish rest with
        | none => rfl
        | some others => exact congrArg some (List.append_assoc ..)
  | case2 indices current short =>
    rcases indices with _ | ⟨along, _ | ⟨target, rest⟩⟩
    · exact congrArg (fun all => some (some all)) (List.append_nil _).symm
    · exact congrArg (fun all => some (some all)) (List.append_nil _).symm
    · exact (short along target rest rfl).elim

theorem segmentsInWords?_eq (relationships : path.relationships.length ≤ most)
    (nodes : path.nodes.length ≤ most) : path.segmentsInWords? most = some path.segments? := by
  unfold segmentsInWords? segments?
  cases path.start? with
  | none => rfl
  | some first =>
    refine (hopsInWords?_eq relationships nodes first [] path.indices).trans ?_
    exact congrArg some Option.map_id'

end Words

/-- The indices of a path are resolved into hops exactly if it has a node to begin with and each
pair of them names a relationship, counted from one whatever its sign, and a node, counted from
zero. Then there is a hop for each pair, along that relationship and to that node, forward for a
positive index; the first begins at the first node and each other where the one before it ended.
No index leaves its word, whichever words hold the positions in the two lists. -/
theorem segments_follow_indices (path : Path) :
    (path.segments?.isSome ↔ path.nodes ≠ [] ∧ EachPair (fun _ => path.Leads) path.indices) ∧
    (∀ segments, path.segments? = some segments →
      segments.length = path.length ∧
      (∀ hop ∈ segments.head?, path.nodes[0]? = some hop.start) ∧
      segments.IsChain (fun hop next => next.start = hop.finish) ∧
      EachPair (fun place along target =>
        ∃ hop, segments[place]? = some hop ∧ path.Follows along target hop) path.indices) ∧
    ∀ most : Int, path.relationships.length ≤ most → path.nodes.length ≤ most →
      path.segmentsInWords? most = some path.segments? := by
  refine ⟨?_, ?_, fun _ => segmentsInWords?_eq⟩
  · unfold segments? start?
    cases path.nodes with
    | nil => exact iff_of_false nofun fun some => some.1 rfl
    | cons first others =>
      exact (hops?_isSome_iff first path.indices).trans (and_iff_right nofun).symm
  · intro segments made
    obtain ⟨first, start, followed⟩ := Option.bind_eq_some_iff.1 made
    obtain ⟨count, next, chain, each⟩ := follows_of_hops? followed
    refine ⟨count, ?_, chain, each⟩
    intro hop member
    rw [next hop member, ← List.head?_eq_getElem?]
    exact start

/-- From one node to another against a relationship, back along it, and an index left over. -/
theorem segments_there_and_back :
    let one : Node := ⟨1, ["Person"], [], "4:p:1"⟩
    let other : Node := ⟨2, ["Person"], [], "4:p:2"⟩
    let knows : UnboundRelationship := ⟨10, "KNOWS", [], "5:r:10"⟩
    let path : Path := ⟨[one, other], [knows], [-1, 1, 1, 0, -0x8000000000000000]⟩
    let hops : List Segment := [⟨one, knows, other, false⟩, ⟨other, knows, one, true⟩]
    path.segments? = some hops ∧ hops.length = path.length ∧
    hops.IsChain (fun hop next => next.start = hop.finish) ∧
    path.segmentsInWords? 2 = some (some hops) := by
  intro one other knows path hops
  have made : path.segments? = some hops := rfl
  obtain ⟨-, follow, words⟩ := segments_follow_indices path
  obtain ⟨count, -, chain, -⟩ := follow hops made
  refine ⟨made, count, chain, ?_⟩
  rw [words 2 (by decide) (by decide), made]

end Path
end BoltClient
