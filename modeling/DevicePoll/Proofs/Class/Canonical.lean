import DevicePoll.Proofs.Class.Reread
import DevicePoll.Proofs.Decimal.Finite

/-! Class definitions that are read from JSON values. The numbers of such a value are finite, and a
whole number is unsigned only if it cannot be signed, so a definition that was read is the one that
comes back when it is written and read again. -/
namespace DevicePoll

/-- A value of a JSON document: a number is a finite real or a whole number of 64 bits, and the keys of
an object are texts. -/
inductive Document.IsJson : Document → Prop where
  | null : IsJson .null
  | boolean (value : Bool) : IsJson (.boolean value)
  | integer {value : Int} (low : Decimal.minSigned ≤ value)
    (high : value ≤ (Decimal.maxUnsigned : Int)) : IsJson (.integer value)
  | real {value : Float} (finite : value.isFinite = true) : IsJson (.real value)
  | text (value : String) : IsJson (.text value)
  | list {items : List Document} (all : ∀ item ∈ items, IsJson item) : IsJson (.list items)
  | object {entries : List (String × Document)} (all : ∀ e ∈ entries, IsJson e.2) :
    IsJson (.object entries)

open Document (IsJson)

/-! ### Scalars and operators -/

namespace Scalar

/-- A scalar that comes back as it is. -/
def IsCanonical (value : Scalar) : Prop := value.isUnbounded = false ∧ value.signed = value

theorem isCanonical_of_ofDocument {document : Document} {value : Scalar} (hjson : document.IsJson)
    (h : ofDocument document = .ok value) : value.IsCanonical := by
  cases hjson with
  | null => simp [ofDocument] at h
  | boolean => cases h; exact ⟨rfl, rfl⟩
  | text => cases h; exact ⟨rfl, rfl⟩
  | list => simp [ofDocument] at h
  | object => simp [ofDocument] at h
  | real hfinite =>
    cases h
    exact ⟨by simp [isUnbounded, hfinite], rfl⟩
  | @integer n hlow hhigh =>
    rw [ofDocument] at h
    split at h
    · cases h
      exact ⟨rfl, rfl⟩
    · next hsigned =>
      split at h
      · cases h
        have hword : (UInt64.ofNat n.toNat).toNat = n.toNat := by
          refine UInt64.toNat_ofNat_of_lt' ?_
          unfold Decimal.maxUnsigned at hhigh
          unfold UInt64.size
          omega
        have hlarge : ¬(UInt64.ofNat n.toNat).toNat ≤ Decimal.maxSigned := by
          rw [hword]
          omega
        exact ⟨rfl, by rw [signed, if_neg hlarge]⟩
      · simp at h

end Scalar

namespace Operator

/-- An operator that comes back as it is. -/
def IsCanonical (op : Operator) : Prop := op.IsFinite ∧ op.signed = op

theorem isCanonical_map {table : SortedMap String Scalar} {fallback : Option Scalar}
    (htable : ∀ e ∈ table.entries, e.2.IsCanonical) (hfallback : ∀ value ∈ fallback, value.IsCanonical) :
    (map table fallback).IsCanonical := by
  refine ⟨⟨fun e he => (htable e he).1, fun value hvalue => (hfallback value hvalue).1⟩, ?_⟩
  have hsame : fallback.map Scalar.signed = fallback := by
    cases fallback with
    | none => rfl
    | some value => exact congrArg some (hfallback value rfl).2
  rw [signed, SortedMap.map_eq_self fun e he => (htable e he).2, hsame]

/-- Arguments that are JSON values. -/
def Arguments.IsJson : Arguments → Prop
  | .labelled entries => ∀ e ∈ entries, e.2.IsJson
  | .keyed _ => False
  | .ordered items => ∀ item ∈ items, item.IsJson

theorem isFinite_of_asReal {document : Document} {value : Float} (hjson : document.IsJson)
    (h : document.asReal = .ok value) : value.isFinite = true := by
  cases hjson with
  | real hfinite => cases h; exact hfinite
  | integer hlow hhigh => cases h; exact Document.isFinite_realOfInt hlow hhigh
  | _ => simp [Document.asReal] at h

theorem isJson_of_argument? {label : String} {entries : List (String × Document)}
    {document : Document} (hjson : ∀ e ∈ entries, e.2.IsJson)
    (h : argument? label entries = .ok (some document)) : document.IsJson := by
  rw [argument?] at h
  split at h
  · simp at h
  · exact hjson _ (Document.mem_of_lookup? (Except.ok.inj h))

theorem isCanonical_of_readTable {document : Document} {table : SortedMap String Scalar}
    (hjson : document.IsJson) (h : readTable document = .ok table) :
    ∀ e ∈ table.entries, e.2.IsCanonical := by
  cases hjson with
  | object hall =>
    intro e he
    obtain ⟨results, hresults, rfl⟩ := map_eq_ok h
    obtain ⟨entry, hentry, hfound⟩ := exists_of_mem_mapM hresults (SortedMap.mem_of_mem_ofList he)
    obtain ⟨value, hvalue, rfl⟩ := map_eq_ok hfound
    exact Scalar.isCanonical_of_ofDocument (hall entry hentry) hvalue
  | _ => simp [readTable, Document.asObject] at h

theorem isCanonical_of_readFallback {document : Document} {fallback : Option Scalar}
    (hjson : document.IsJson) (h : readFallback document = .ok fallback) :
    ∀ value ∈ fallback, value.IsCanonical := by
  intro value hvalue
  rw [readFallback, Document.asOptional.eq_def] at h
  split at h
  · cases h
    simp at hvalue
  · obtain ⟨found, hfound, rfl⟩ := map_eq_ok h
    cases hvalue
    exact Scalar.isCanonical_of_ofDocument hjson hfound

theorem isCanonical_of_readPlain {plain op : Operator} {arguments : Arguments}
    (hplain : plain.IsCanonical) (h : readPlain plain arguments = .ok op) : op.IsCanonical := by
  cases arguments with
  | ordered items =>
    obtain ⟨_, -, rfl⟩ := map_eq_ok h
    exact hplain
  | _ =>
    cases h
    exact hplain

theorem isCanonical_of_readScale {arguments : Arguments} {op : Operator}
    (hjson : arguments.IsJson) (h : readScale arguments = .ok op) : op.IsCanonical := by
  cases arguments with
  | labelled entries =>
    obtain ⟨found, hfound, h⟩ := bind_eq_ok h
    cases found with
    | none => simp at h
    | some factor =>
      obtain ⟨value, hvalue, rfl⟩ := map_eq_ok h
      exact ⟨isFinite_of_asReal (isJson_of_argument? hjson hfound) hvalue, rfl⟩
  | keyed entries => exact hjson.elim
  | ordered items =>
    cases items with
    | nil => simp [readScale, tooFew] at h
    | cons factor more =>
      obtain ⟨value, hvalue, h⟩ := bind_eq_ok h
      obtain ⟨_, -, h⟩ := bind_eq_ok h
      cases h
      exact ⟨isFinite_of_asReal (hjson factor List.mem_cons_self) hvalue, rfl⟩

theorem isCanonical_of_readMap {arguments : Arguments} {op : Operator}
    (hjson : arguments.IsJson) (h : readMap arguments = .ok op) : op.IsCanonical := by
  cases arguments with
  | labelled entries =>
    obtain ⟨default, hdefault, h⟩ := bind_eq_ok h
    obtain ⟨fallback, hfallback, h⟩ := bind_eq_ok h
    obtain ⟨found, hfound, h⟩ := bind_eq_ok h
    cases found with
    | none => simp at h
    | some values =>
      obtain ⟨table, htable, h⟩ := bind_eq_ok h
      cases h
      have hjsonDefault : (default.getD .null).IsJson := by
        cases default with
        | none => exact .null
        | some document => exact isJson_of_argument? hjson hdefault
      exact isCanonical_map
        (isCanonical_of_readTable (isJson_of_argument? hjson hfound) htable)
        (isCanonical_of_readFallback hjsonDefault hfallback)
  | keyed entries => exact hjson.elim
  | ordered items =>
    cases items with
    | nil => simp [readMap, tooFew] at h
    | cons values more =>
      obtain ⟨table, htable, h⟩ := bind_eq_ok h
      obtain ⟨fallback, hfallback, h⟩ := bind_eq_ok h
      obtain ⟨_, -, h⟩ := bind_eq_ok h
      cases h
      obtain ⟨hvalues, hmore⟩ := List.forall_mem_cons.mp hjson
      have hjsonDefault : (more.head?.getD .null).IsJson := by
        cases more with
        | nil => exact .null
        | cons document more => exact hmore document List.mem_cons_self
      exact isCanonical_map (isCanonical_of_readTable hvalues htable)
        (isCanonical_of_readFallback hjsonDefault hfallback)

theorem isCanonical_of_readNamed {name : String} {arguments : Arguments} {op : Operator}
    (hjson : arguments.IsJson) (h : readNamed name arguments = .ok op) : op.IsCanonical := by
  have htrim : trim.IsCanonical := ⟨trivial, rfl⟩
  have hparseNumber : parseNumber.IsCanonical := ⟨trivial, rfl⟩
  rw [readNamed] at h
  split at h
  · exact isCanonical_of_readPlain htrim h
  · split at h
    · exact isCanonical_of_readScale hjson h
    · split at h
      · exact isCanonical_of_readPlain hparseNumber h
      · split at h
        · exact isCanonical_of_readMap hjson h
        · simp at h

theorem isCanonical_of_read {numbered : Bool} {document : Document} {op : Operator}
    (hjson : document.IsJson) (h : read numbered document = .ok op) : op.IsCanonical := by
  cases hjson with
  | @object entries hall =>
    have hlabelled : (Arguments.labelled entries).IsJson := hall
    obtain ⟨found, hfound, h⟩ := bind_eq_ok h
    cases found with
    | none => simp at h
    | some name =>
      obtain ⟨name, -, h⟩ := bind_eq_ok h
      exact isCanonical_of_readNamed hlabelled h
  | @list items hall =>
    cases items with
    | nil => simp [read] at h
    | cons name items =>
      have hordered : (Arguments.ordered items).IsJson := (List.forall_mem_cons.mp hall).2
      obtain ⟨name, -, h⟩ := bind_eq_ok h
      exact isCanonical_of_readNamed hordered h
  | _ => simp [read] at h

theorem isCanonical_of_readAll {numbered : Bool} {document : Document} {ops : List Operator}
    (hjson : document.IsJson) (h : readAll numbered document = .ok ops) :
    ∀ op ∈ ops, op.IsCanonical := by
  cases hjson with
  | list hall =>
    intro op hop
    obtain ⟨item, hitem, hfound⟩ := exists_of_mem_mapM h hop
    exact isCanonical_of_read (hall item hitem) hfound
  | _ => simp [readAll, Document.asListOf, Document.asList, bind, Except.bind] at h

end Operator

/-! ### Nodes -/

namespace NodeSpec

/-- A node that comes back as it is. -/
def IsCanonical (spec : NodeSpec) : Prop := IsFinite spec ∧ signed spec = spec

theorem isCanonical_leaf {spec : LeafSpec} (h : ∀ op ∈ spec.operators, op.IsCanonical) :
    IsCanonical (.leaf spec) := by
  refine ⟨fun op hop => (h op hop).1, ?_⟩
  have hsame : spec.operators.map Operator.signed = spec.operators :=
    calc spec.operators.map Operator.signed = spec.operators.map id :=
          List.map_congr_left fun op hop => (h op hop).2
      _ = spec.operators := List.map_id _
  rw [signed, LeafSpec.signed, hsame]

theorem forall_child_ofList {P : NodeSpec → Prop} {nodes : List (String × NodeSpec)}
    (h : ∀ e ∈ nodes, P e.2) (label : String) (mem : label ∈ (LabelTree.ofList nodes).labels) :
    P ((LabelTree.ofList nodes).child label mem) :=
  h (label, _) (LabelTree.mem_of_mem_ofList
    (LabelTree.mem_toList_iff.mpr (LabelTree.get?_eq_some mem)))

theorem isCanonical_ofList {nodes : List (String × NodeSpec)} (h : ∀ e ∈ nodes, IsCanonical e.2) :
    IsFinite (LabelTree.ofList nodes).toNode ∧
      signedTree (LabelTree.ofList nodes) = LabelTree.ofList nodes := by
  have hchild := forall_child_ofList h
  refine ⟨fun label mem => (hchild label mem).1, ?_⟩
  rw [signedTree]
  congr 1
  funext label mem
  exact (hchild label mem).2

theorem isCanonical_of_operators {document : Document} {ops : List Operator}
    (hjson : document.IsJson) (h : (Operator.readAll true document).toOption = some ops) :
    ∀ op ∈ ops, op.IsCanonical := by
  cases hread : Operator.readAll true document with
  | error mismatch => simp [hread, Except.toOption] at h
  | ok found =>
    rw [hread] at h
    cases h
    exact Operator.isCanonical_of_readAll hjson hread

theorem isCanonical_of_readLeafEntries? {entries : List (String × Document)} {spec : LeafSpec}
    (hjson : ∀ e ∈ entries, e.2.IsJson) (h : readLeafEntries? entries = some spec) :
    ∀ op ∈ spec.operators, op.IsCanonical := by
  rw [readLeafEntries?] at h
  split at h
  · obtain ⟨value, -, h⟩ := Option.bind_eq_some_iff.mp h
    obtain ⟨oid, -, h⟩ := Option.bind_eq_some_iff.mp h
    split at h
    · cases h
      simp
    · next operators hoperators =>
      obtain ⟨ops, hops, h⟩ := Option.bind_eq_some_iff.mp h
      cases h
      exact isCanonical_of_operators (hjson _ (Document.mem_of_lookup? hoperators)) hops
  · simp at h

theorem isCanonical_of_readLeaf? {document : Document} {spec : LeafSpec} (hjson : document.IsJson)
    (h : readLeaf? document = some spec) : IsCanonical (.leaf spec) := by
  refine isCanonical_leaf ?_
  cases hjson with
  | object hall => exact isCanonical_of_readLeafEntries? hall h
  | @list items hall =>
    rw [readLeaf?.eq_def] at h
    split at h
    · simp_all
    · simp_all
    · obtain ⟨oid, -, h⟩ := Option.bind_eq_some_iff.mp h
      cases h
      simp
    · next oid operators hitems =>
      cases hitems
      obtain ⟨oid, -, h⟩ := Option.bind_eq_some_iff.mp h
      obtain ⟨ops, hops, h⟩ := Option.bind_eq_some_iff.mp h
      cases h
      exact isCanonical_of_operators (hall operators (by simp)) hops
    · simp at h
  | _ => simp [readLeaf?] at h

mutual

theorem isCanonical_of_read? {document : Document} {spec : NodeSpec} (hjson : document.IsJson)
    (h : read? document = some spec) : IsCanonical spec := by
  cases document with
  | object entries =>
    have hall : ∀ e ∈ entries, e.2.IsJson := by
      cases hjson
      assumption
    rw [read?] at h
    split at h
    · next leaf hleaf =>
      cases h
      exact isCanonical_of_readLeaf? hjson hleaf
    · obtain ⟨nodes, hnodes, rfl⟩ := Option.map_eq_some_iff.mp h
      have hmembers : ∀ e ∈ nodes, IsCanonical e.2 := isCanonical_of_readEntries? hall hnodes
      obtain ⟨hfinite, hsame⟩ := isCanonical_ofList hmembers
      exact ⟨hfinite, congrArg LabelTree.toNode hsame⟩
  | _ =>
    rw [read?] at h
    · obtain ⟨leaf, hleaf, rfl⟩ := Option.map_eq_some_iff.mp h
      exact isCanonical_of_readLeaf? hjson hleaf
    · simp

theorem isCanonical_of_readEntries? {entries : List (String × Document)}
    {nodes : List (String × NodeSpec)} (hjson : ∀ e ∈ entries, e.2.IsJson)
    (h : readEntries? entries = some nodes) : ∀ e ∈ nodes, IsCanonical e.2 := by
  cases entries with
  | nil =>
    cases h
    simp
  | cons entry entries =>
    obtain ⟨label, value⟩ := entry
    obtain ⟨hvalue, hrest⟩ := List.forall_mem_cons.mp hjson
    rw [readEntries?] at h
    split at h
    · next node rest hnode hnodes =>
      cases h
      exact List.forall_mem_cons.mpr
        ⟨isCanonical_of_read? hvalue hnode, isCanonical_of_readEntries? hrest hnodes⟩
    · simp at h

end

end NodeSpec

/-! ### Definitions -/

namespace ClassOverlay

/-- A definition whose properties come back as they are. -/
def IsCanonical (o : ClassOverlay) : Prop := o.IsFinite ∧ o.signed = o

theorem isCanonical_of_properties {o : ClassOverlay}
    (h : NodeSpec.IsFinite o.properties.toNode ∧ NodeSpec.signedTree o.properties = o.properties) :
    o.IsCanonical := by
  refine ⟨h.1, ?_⟩
  rw [signed, h.2]

theorem isCanonical_named (name : String) : (named name).IsCanonical :=
  isCanonical_of_properties (NodeSpec.isCanonical_ofList fun _ h => absurd h List.not_mem_nil)

theorem isCanonical_of_readProperties {document : Document} {properties : LabelTree LeafSpec}
    (hjson : document.IsJson) (h : readProperties document = .ok properties) :
    NodeSpec.IsFinite properties.toNode ∧ NodeSpec.signedTree properties = properties := by
  cases hjson with
  | object hall =>
    obtain ⟨entries, hentries, h⟩ := bind_eq_ok h
    cases hentries
    obtain ⟨nodes, hnodes, h⟩ := bind_eq_ok h
    cases h
    refine NodeSpec.isCanonical_ofList fun e he => ?_
    obtain ⟨entry, hentry, hfound⟩ := exists_of_mem_mapM hnodes he
    obtain ⟨node, hnode, rfl⟩ := map_eq_ok hfound
    rw [NodeSpec.read] at hnode
    split at hnode
    · next hread =>
      cases hnode
      exact NodeSpec.isCanonical_of_read? (hall entry hentry) hread
    · simp at hnode
  | _ => simp [readProperties, Document.asObject, bind, Except.bind] at h

theorem isCanonical_of_readPart {acc o : ClassOverlay} {label : String} {value : Document}
    (hacc : acc.IsCanonical) (hjson : value.IsJson) (h : acc.readPart label value = .ok o) :
    o.IsCanonical := by
  obtain ⟨hfinite, hsame⟩ := hacc
  have hproperties : NodeSpec.signedTree acc.properties = acc.properties :=
    congrArg ClassOverlay.properties hsame
  rw [readPart] at h
  split at h
  · obtain ⟨name, -, rfl⟩ := map_eq_ok h
    exact isCanonical_of_properties ⟨hfinite, hproperties⟩
  · split at h
    · obtain ⟨parent, -, rfl⟩ := map_eq_ok h
      exact isCanonical_of_properties ⟨hfinite, hproperties⟩
    · split at h
      · obtain ⟨flags, -, rfl⟩ := map_eq_ok h
        exact isCanonical_of_properties ⟨hfinite, hproperties⟩
      · split at h
        · obtain ⟨properties, hread, rfl⟩ := map_eq_ok h
          exact isCanonical_of_properties (isCanonical_of_readProperties hjson hread)
        · cases h
          exact ⟨hfinite, hsame⟩

theorem isCanonical_of_readParts {entries : List (String × Document)} {o : ClassOverlay}
    (hjson : ∀ e ∈ entries, e.2.IsJson) (h : readParts entries = .ok o) : o.IsCanonical := by
  have hfold : ∀ acc : ClassOverlay, acc.IsCanonical →
      entries.foldlM (fun overlay e => overlay.readPart e.1 e.2) acc = .ok o → o.IsCanonical := by
    clear h
    induction entries with
    | nil =>
      intro acc hacc h
      cases h
      exact hacc
    | cons e entries ih =>
      intro acc hacc h
      obtain ⟨hhead, htail⟩ := List.forall_mem_cons.mp hjson
      rw [List.foldlM_cons] at h
      obtain ⟨next, hnext, h⟩ := bind_eq_ok h
      exact ih htail next (isCanonical_of_readPart hacc hhead hnext) h
  exact hfold (named "") (isCanonical_named "") h

theorem isCanonical_of_read {document : Document} {o : ClassOverlay} (hjson : document.IsJson)
    (h : read document = .ok o) : o.IsCanonical := by
  cases hjson with
  | object hall =>
    obtain ⟨overlay, hoverlay, h⟩ := bind_eq_ok h
    have hcanonical := isCanonical_of_readParts hall hoverlay
    split at h
    · simp at h
    · split at h
      · cases h
        exact hcanonical
      · simp at h
  | @list items hall =>
    cases items with
    | nil => simp [read] at h
    | cons item items =>
      obtain ⟨overlay, hoverlay, h⟩ := bind_eq_ok h
      have hcanonical := isCanonical_of_readParts
        (fun e he => hall e.2 (List.of_mem_zip he).2) hoverlay
      split at h
      · cases h
        exact hcanonical
      · simp at h
  | _ => simp [read] at h

/-- A definition of finite numbers that is written comes back with every whole number signed that can
be, in the order of writing as well as from a value tree, where labels are sorted. One that was read
from a JSON value comes back as it is, and so does its query tree. -/
theorem read_write_read :
    (∀ o : ClassOverlay, o.IsFinite →
      read o.write.canonical = .ok o.signed ∧ read o.write = .ok o.signed) ∧
    ∀ (json : Document) (o : ClassOverlay), json.IsJson → read json = .ok o →
      read o.write.canonical = read json ∧ read o.write = read json ∧
        (read o.write.canonical).map queryTree = (read json).map queryTree := by
  constructor
  · intro o hfinite
    exact ⟨read_write Document.rearranges_canonical hfinite, read_write Document.rearranges_id hfinite⟩
  · intro json o hjson hread
    obtain ⟨hfinite, hsame⟩ := isCanonical_of_read hjson hread
    have hcanonical : read o.write.canonical = read json := by
      rw [read_write Document.rearranges_canonical hfinite, hsame, hread]
    have hwritten : read o.write = read json := by
      have := read_write Document.rearranges_id hfinite
      rw [hsame] at this
      rw [hread]
      exact this
    exact ⟨hcanonical, hwritten, by rw [hcanonical]⟩

/-- A group whose labels are those of a leaf. One of its leaves maps to numbers that are not signed. -/
def leafLike : ClassOverlay :=
  { named "core" with
    properties := LabelTree.ofList [("a", (LabelTree.ofList
      [("oid", .leaf ⟨"1.1", [.map (SortedMap.ofList [("1", .unsigned 3)])
        (some (.unsigned 18446744073709551615))]⟩),
        ("operators", .leaf ⟨"1.2", [.trim]⟩)]).toNode)] }

/-- A value tree with such a group, an empty group and operators that are not written by label. -/
def leafLikeJson : Document :=
  .object [("properties", .object [("a", .object [("operators", .object []),
    ("oid", .object [("oid", .text "1.1"),
      ("operators", .list [.list [.text "scale", .integer 10]])])])]), ("name", .text "core")]

theorem leafLike_isFinite : leafLike.IsFinite := by
  refine NodeSpec.forall_child_ofList (List.forall_mem_singleton.mpr ?_)
  refine NodeSpec.forall_child_ofList (List.forall_mem_cons.mpr ⟨?_, List.forall_mem_singleton.mpr ?_⟩)
  · refine List.forall_mem_singleton.mpr ⟨fun e he => ?_, fun value hvalue => ?_⟩
    · cases List.mem_singleton.mp (SortedMap.mem_of_mem_ofList he)
      rfl
    · cases hvalue
      rfl
  · exact List.forall_mem_singleton.mpr trivial

theorem leafLikeJson_isJson : leafLikeJson.IsJson := by
  have hten : Document.IsJson (.integer 10) := .integer (by decide) (by decide)
  have hscale : Document.IsJson (.list [.text "scale", .integer 10]) :=
    .list (by simp [hten, IsJson.text])
  have hleaf : Document.IsJson (.object [("oid", .text "1.1"),
      ("operators", .list [.list [.text "scale", .integer 10]])]) :=
    .object (by simp [IsJson.text, IsJson.list, hscale])
  have hempty : Document.IsJson (.object []) := .object (by simp)
  have hproperties : Document.IsJson (.object [("a", .object [("operators", .object []),
      ("oid", .object [("oid", .text "1.1"),
        ("operators", .list [.list [.text "scale", .integer 10]])])])]) :=
    .object (List.forall_mem_singleton.mpr (.object (by simp [hempty, hleaf])))
  exact .object (by simp [hproperties, IsJson.text])

theorem leafLike_comes_back_as_group :
    leafLike.IsFinite ∧ read leafLike.write.canonical = .ok leafLike.signed ∧
      leafLike.signed.properties.lookup "a.oid" = some (.leaf ⟨"1.1",
        [.map (SortedMap.ofList [("1", .integer 3)])
          (some (.unsigned 18446744073709551615))]⟩) ∧
      leafLikeJson.IsJson ∧ ∃ o, read leafLikeJson = .ok o ∧
        read o.write.canonical = read leafLikeJson := by
  refine ⟨leafLike_isFinite, (read_write_read.1 leafLike leafLike_isFinite).1, rfl,
    leafLikeJson_isJson, _, rfl, ?_⟩
  exact (read_write_read.2 leafLikeJson _ leafLikeJson_isJson rfl).1

end ClassOverlay
end DevicePoll
