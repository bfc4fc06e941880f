import SelectionSql.Proofs.Document.Expansion
import SelectionSql.Proofs.Selection.Kinds

/-!
# Fields that are requested more than once

Fragments are flattened into the selection that uses them, so a field may be requested several times
below one node. Of all fields of one name the first is kept.

* `Node.first?`: the field that is kept.
* `Selection.mem_requested_iff`, `mem_requestedNames_iff`: the fields that are kept, by name.
* `Classified.Joins`, `Resolves`: what is read for a relation.
* `Selection.NothingLost`: whatever is requested at any place is read.
* `Selection.repeated_reads_first`: what is read is what the first place requests, so nothing is
  lost exactly if no later place asks for more.
-/
set_option autoImplicit false

namespace SelectionSql
namespace Selection

/-! ## The field that is kept -/

/-- The first field below a node that has a name. -/
def Node.first? (node : Node) (name : String) : Option Node :=
  node.children.find? fun child => child.name = name

theorem Node.exists_first? {node child : Node} (h : child ∈ node.children) :
    ∃ first, node.first? child.name = some first ∧ first ∈ node.children ∧
      first.name = child.name := by
  have hsome : (node.first? child.name).isSome := by
    rw [first?, List.find?_isSome]
    exact ⟨child, h, by simp⟩
  obtain ⟨first, hfirst⟩ := Option.isSome_iff_exists.1 hsome
  have hname : first.name = child.name := by simpa using List.find?_some hfirst
  exact ⟨first, hfirst, List.mem_of_find?_eq_some hfirst, hname⟩

theorem mem_requested_iff {node : Node} {child : Child node} :
    child ∈ requested node ↔
      child.1.name ≠ typenameField ∧ node.first? child.1.name = some child.1 := by
  have hval : child ∈ requested node ↔
      child.1 ∈ firstOccurrences Node.name [typenameField] node.children := by
    have hmap := firstOccurrences_map (fun c : Child node => c.1) Node.name [typenameField]
      node.children.attach
    rw [List.attach_map_subtype_val] at hmap
    rw [hmap, List.mem_map]
    constructor
    · exact fun h => ⟨child, h, rfl⟩
    · rintro ⟨child', h, hchild⟩
      rw [← Subtype.ext hchild]
      exact h
  rw [hval, mem_firstOccurrences_iff, List.mem_singleton, Node.first?]

theorem mem_requestedNames_iff {node : Node} {name : String} :
    name ∈ requestedNames node ↔
      name ≠ typenameField ∧ ∃ child ∈ node.children, child.name = name := by
  rw [requestedNames, List.mem_map]
  constructor
  · rintro ⟨child, hchild, rfl⟩
    exact ⟨(mem_requested_iff.1 hchild).1, child.1, child.2, rfl⟩
  · rintro ⟨hname, child, hchild, rfl⟩
    obtain ⟨first, hfirst, hmem, hsame⟩ := Node.exists_first? hchild
    exact ⟨⟨first, hmem⟩, mem_requested_iff.2 ⟨hsame ▸ hname, hsame ▸ hfirst⟩, hsame⟩

/-! ## What is read for a relation -/

namespace Classified
variable {node : Node} {schema : Schema} {typeName : String} {strict : Bool} {c : Classified node}

/-- A column of the row that a to-one relation points at is read. -/
def Joins (c : Classified node) (relation column : String) : Prop :=
  ∃ join ∈ c.toOne, join.relation = relation ∧ column ∈ join.columns

/-- A field is requested of the rows that a relation leads to. -/
def Resolves (c : Classified node) (relation : String) (child : Node) : Prop :=
  ∃ related ∈ c.relations, related.node.name = relation ∧ child ∈ related.node.children

theorem joins_iff (h : classify schema typeName node strict = .ok c) {name : String}
    {field : FieldDef} (hfield : schema.field? typeName name = some field)
    (hone : field.relation = .toOne) {first : Node} (hfirst : node.first? name = some first)
    {column : String} :
    c.Joins name column ↔ name ≠ typenameField ∧ column ≠ typenameField ∧
      ∃ kept ∈ first.children, kept.name = column := by
  have hname : first.name = name := by simpa using List.find?_some hfirst
  subst hname
  constructor
  · rintro ⟨join, hjoin, hrelation, hcolumn⟩
    obtain ⟨child, field', hdeclared, -, rfl⟩ := (mem_toOne_iff h).1 hjoin
    obtain ⟨hne, hkept⟩ := mem_requested_iff.1 hdeclared.requested
    replace hrelation : child.1.name = first.name := hrelation
    rw [hrelation, hfirst] at hkept
    rw [← Option.some.inj hkept] at hcolumn
    exact ⟨hrelation ▸ hne, mem_requestedNames_iff.1 hcolumn⟩
  · rintro ⟨hne, hcolumn⟩
    have hmem : first ∈ node.children := List.mem_of_find?_eq_some hfirst
    have hdeclared : Declared schema typeName ⟨first, hmem⟩ field :=
      ⟨mem_requested_iff.2 ⟨hne, hfirst⟩, hfield⟩
    exact ⟨_, (mem_toOne_iff h).2 ⟨_, field, hdeclared, hone, rfl⟩, rfl,
      mem_requestedNames_iff.2 hcolumn⟩

theorem resolves_iff (h : classify schema typeName node strict = .ok c) {name : String}
    {field : FieldDef} (hfield : schema.field? typeName name = some field)
    (hmany : field.relation.isMany = true) {first : Node} (hfirst : node.first? name = some first)
    {child : Node} :
    c.Resolves name child ↔ name ≠ typenameField ∧ child ∈ first.children := by
  have hname : first.name = name := by simpa using List.find?_some hfirst
  subst hname
  constructor
  · rintro ⟨related, hrelated, hrelation, hchild⟩
    obtain ⟨hne, hkept⟩ := mem_requested_iff.1 ((mem_relations_iff h).1 hrelated).1.requested
    replace hkept : node.first? related.node.name = some related.node := hkept
    rw [hrelation, hfirst] at hkept
    exact ⟨hrelation ▸ hne, Option.some.inj hkept ▸ hchild⟩
  · rintro ⟨hne, hchild⟩
    have hmem : first ∈ node.children := List.mem_of_find?_eq_some hfirst
    have hdeclared : Declared schema typeName ⟨first, hmem⟩ field :=
      ⟨mem_requested_iff.2 ⟨hne, hfirst⟩, hfield⟩
    exact ⟨⟨first, field, hmem⟩, (mem_relations_iff h).2 ⟨hdeclared, hmany⟩, rfl, hchild⟩

end Classified

section Places
variable {node : Node} {schema : Schema} {typeName : String} {strict : Bool} {c : Classified node}

/-- Whatever is requested below a relation, at any of its places, is read. -/
structure NothingLost (schema : Schema) (typeName : String) (c : Classified node) : Prop where
  joined : ∀ place ∈ node.children, ∀ field, schema.field? typeName place.name = some field →
    field.relation = .toOne → ∀ child ∈ place.children, child.name ≠ typenameField →
      c.Joins place.name child.name
  resolved : ∀ place ∈ node.children, ∀ field, schema.field? typeName place.name = some field →
    field.relation.isMany = true → ∀ child ∈ place.children, c.Resolves place.name child

/-- Whatever is requested below a relation is requested at its first place. -/
structure FirstAsksAll (schema : Schema) (typeName : String) (node : Node) : Prop where
  joined : ∀ place ∈ node.children, ∀ field, schema.field? typeName place.name = some field →
    field.relation = .toOne → ∀ first, node.first? place.name = some first →
      ∀ child ∈ place.children, child.name ≠ typenameField →
        place.name ≠ typenameField ∧ ∃ kept ∈ first.children, kept.name = child.name
  resolved : ∀ place ∈ node.children, ∀ field, schema.field? typeName place.name = some field →
    field.relation.isMany = true → ∀ first, node.first? place.name = some first →
      ∀ child ∈ place.children, place.name ≠ typenameField ∧ child ∈ first.children

theorem nothingLost_iff (h : classify schema typeName node strict = .ok c) :
    NothingLost schema typeName c ↔ FirstAsksAll schema typeName node := by
  constructor
  · rintro ⟨hjoined, hresolved⟩
    refine ⟨fun place hplace field hfield hone first hfirst child hchild hname => ?_,
      fun place hplace field hfield hmany first hfirst child hchild => ?_⟩
    · have hread := hjoined place hplace field hfield hone child hchild hname
      obtain ⟨hplaceName, -, hkept⟩ := (Classified.joins_iff h hfield hone hfirst).1 hread
      exact ⟨hplaceName, hkept⟩
    · have hread := hresolved place hplace field hfield hmany child hchild
      exact (Classified.resolves_iff h hfield hmany hfirst).1 hread
  · rintro ⟨hjoined, hresolved⟩
    refine ⟨fun place hplace field hfield hone child hchild hname => ?_,
      fun place hplace field hfield hmany child hchild => ?_⟩
    · obtain ⟨first, hfirst, -, -⟩ := Node.exists_first? hplace
      obtain ⟨hplaceName, hkept⟩ :=
        hjoined place hplace field hfield hone first hfirst child hchild hname
      exact (Classified.joins_iff h hfield hone hfirst).2 ⟨hplaceName, hname, hkept⟩
    · obtain ⟨first, hfirst, -, -⟩ := Node.exists_first? hplace
      have hkept := hresolved place hplace field hfield hmany first hfirst child hchild
      exact (Classified.resolves_iff h hfield hmany hfirst).2 hkept

/-- What is read for a relation is what its first place requests, so nothing is lost exactly if no
later place asks for more. -/
theorem repeated_reads_first (h : classify schema typeName node strict = .ok c) :
    (∀ place ∈ node.children, ∀ field, schema.field? typeName place.name = some field →
      ∃ first, node.first? place.name = some first ∧
        (field.relation = .toOne → ∀ column, c.Joins place.name column ↔
          place.name ≠ typenameField ∧ column ≠ typenameField ∧
            ∃ kept ∈ first.children, kept.name = column) ∧
        (field.relation.isMany = true → ∀ child, c.Resolves place.name child ↔
          place.name ≠ typenameField ∧ child ∈ first.children)) ∧
    (NothingLost schema typeName c ↔ FirstAsksAll schema typeName node) := by
  refine ⟨fun place hplace field hfield => ?_, nothingLost_iff h⟩
  obtain ⟨first, hfirst, -, -⟩ := Node.exists_first? hplace
  exact ⟨first, hfirst, fun hone _ => Classified.joins_iff h hfield hone hfirst,
    fun hmany _ => Classified.resolves_iff h hfield hmany hfirst⟩

end Places

/-! ## Two fragments that select one relation -/

namespace TwoParts

def schema : Schema where
  types := .ofList [("Post", ⟨"Post", .ofList
      [("author", ⟨"author", ⟨"User", false, true⟩, .toOne⟩),
        ("comments", ⟨"comments", ⟨"Comment", true, true⟩, .toMany⟩)]⟩),
    ("User", ⟨"User", .ofList [("id", ⟨"id", ⟨"ID", false, false⟩, .none⟩),
      ("name", ⟨"name", ⟨"String", false, true⟩, .none⟩)]⟩)]
  queryType := "Query"

/-- A field of the author and one of the comments. -/
def part (author comment : String) : List Document.Selection :=
  [.field "author" [] [] [.field author [] [] []],
    .field "comments" [] [] [.field comment [] [] []]]

/-- Posts with their authors and comments, of which two fragments each select a part. -/
def document : Document where
  operations := .anonymous ⟨.query, [], [],
    [.field "posts" [] [] [.spread "Ids" [], .spread "Texts" []]]⟩
  fragments := .ofList [("Ids", ⟨[], part "id" "id"⟩), ("Texts", ⟨[], part "name" "body"⟩)]

def node : Node where
  name := "posts"
  arguments := .empty
  children := [.leaves "author" ["id"], .leaves "comments" ["id"], .leaves "author" ["name"],
    .leaves "comments" ["body"]]

def classified : Classified node where
  items := [.toOne ⟨"author", "User", ["id"]⟩,
    .toMany ⟨.leaves "comments" ["id"], ⟨"comments", ⟨"Comment", true, true⟩, .toMany⟩,
      List.mem_cons_of_mem _ List.mem_cons_self⟩]

theorem rootFields_document : document.rootFields none .empty = .ok [node] := by
  have hkept : ∀ scope, Document.Kept scope [] := fun _ => Document.isIncluded_eq_true_iff.1 rfl
  have hpart : ∀ scope author comment, Document.Expands document.fragments scope
      (part author comment)
      [⟨"author", [], [⟨author, [], []⟩]⟩, ⟨"comments", [], [⟨comment, [], []⟩]⟩] :=
    fun scope _ _ => .field (hkept scope) (.field (hkept scope) .nil .nil)
      (.field (hkept scope) (.field (hkept scope) .nil .nil) .nil)
  have hparts : ∀ scope, Document.Expands document.fragments scope
      [.spread "Ids" [], .spread "Texts" []] (_ ++ (_ ++ [])) := fun scope =>
    .spread (hkept scope) rfl (hpart scope "id" "id")
      (.spread (hkept scope) rfl (hpart scope "name" "body") .nil)
  exact Document.rootFields_eq_ok_iff.2 ⟨_, _, rfl, rfl, .field (hkept _) (hparts _) .nil, rfl⟩

theorem classify_node : classify schema "Post" node true = .ok classified := rfl

end TwoParts

theorem repeated_reads_first_parts :
    classify TwoParts.schema "Post" TwoParts.node true = .ok TwoParts.classified ∧
      TwoParts.classified.Joins "author" "id" ∧ ¬ TwoParts.classified.Joins "author" "name" ∧
      TwoParts.classified.Resolves "comments" (.ofName "id") ∧
      ¬ TwoParts.classified.Resolves "comments" (.ofName "body") := by
  have hreads := (repeated_reads_first TwoParts.classify_node).1
  obtain ⟨first, hfirst, hjoins, -⟩ :=
    hreads (.leaves "author" ["name"]) (by simp [TwoParts.node]) _ rfl
  obtain ⟨first', hfirst', -, hresolves⟩ :=
    hreads (.leaves "comments" ["body"]) (by simp [TwoParts.node]) _ rfl
  cases hfirst
  cases hfirst'
  refine ⟨TwoParts.classify_node, ?_, ?_, ?_, ?_⟩
  · exact (hjoins rfl "id").2 ⟨by decide, by decide, .ofName "id", List.mem_cons_self, rfl⟩
  · intro h
    obtain ⟨-, -, kept, hkept, hname⟩ := (hjoins rfl "name").1 h
    cases List.mem_singleton.1 hkept
    exact absurd hname (by decide)
  · exact (hresolves rfl (.ofName "id")).2 ⟨by decide, List.mem_cons_self⟩
  · intro h
    have hchild := List.mem_singleton.1 ((hresolves rfl (.ofName "body")).1 h).2
    exact absurd (congrArg Node.name hchild) (by decide)

/-- The second fragment asks for the name of the author, which is not read. -/
theorem second_part_lost :
    TwoParts.document.rootFields none .empty = .ok [TwoParts.node] ∧
      classify TwoParts.schema "Post" TwoParts.node true = .ok TwoParts.classified ∧
      ¬ NothingLost TwoParts.schema "Post" TwoParts.classified := by
  refine ⟨TwoParts.rootFields_document, TwoParts.classify_node, fun h => ?_⟩
  have hread := h.joined (.leaves "author" ["name"]) (by simp [TwoParts.node]) _ rfl rfl
    (.ofName "name") List.mem_cons_self (by decide)
  obtain ⟨-, -, kept, hkept, hname⟩ :=
    (Classified.joins_iff TwoParts.classify_node rfl rfl rfl).1 hread
  cases List.mem_singleton.1 hkept
  exact absurd hname (by decide)

end Selection
end SelectionSql
