import LendingPool.NameHash
import LendingPool.Proofs.Text.LowerCase
/-! The hash of a dotted name, label by label. A name is read from its end, where the root is; its
hash is that of the path from its first label upwards. Every name but the empty one is such a path,
and a label may be empty. -/

namespace LendingPool

/-! ## Parts -/

theorem splitAll_eq_splitOn (mark : Char) (text : List Char) :
    splitAll mark text = text.splitOn mark := by
  induction text with
  | nil => rfl
  | cons c rest induction =>
      rw [splitAll, List.splitOn_cons_eq_if_modifyHead, induction]
      by_cases marks : c = mark
      · rw [if_pos marks, if_pos (beq_iff_eq.mpr marks)]
      · rw [if_neg marks, if_neg (mt beq_iff_eq.mp marks)]
        cases parts : rest.splitOn mark with
        | nil => exact absurd parts (List.splitOn_ne_nil mark rest)
        | cons part others => rfl

theorem splitAll_cons_mark (mark : Char) (rest : List Char) :
    splitAll mark (mark :: rest) = [] :: splitAll mark rest := by
  rw [splitAll, if_pos rfl]

theorem splitAll_cons_of_ne {c mark : Char} (other : c ≠ mark) (rest : List Char) :
    splitAll mark (c :: rest) = (splitAll mark rest).modifyHead (c :: ·) := by
  rw [splitAll_eq_splitOn, splitAll_eq_splitOn, List.splitOn_cons_eq_if_modifyHead,
    if_neg (mt beq_iff_eq.mp other)]

theorem mark_not_mem_of_mem_splitAll {mark : Char} {text part : List Char}
    (member : part ∈ splitAll mark text) : mark ∉ part := by
  induction text generalizing part with
  | nil =>
      rw [splitAll, List.mem_singleton] at member
      simp [member]
  | cons c rest induction =>
      by_cases marks : c = mark
      · rw [marks, splitAll_cons_mark] at member
        rcases List.mem_cons.mp member with rfl | later
        · exact List.not_mem_nil
        · exact induction later
      · rw [splitAll_cons_of_ne marks] at member
        cases parts : splitAll mark rest with
        | nil => simp [parts] at member
        | cons first others =>
            rw [parts] at member induction
            rcases List.mem_cons.mp member with rfl | later
            · have absent : mark ∉ first := induction (List.mem_cons_self ..)
              simp [absent, Ne.symm marks]
            · exact induction (List.mem_cons_of_mem _ later)

theorem splitAll_map {mark : Char} {change : Char → Char}
    (spares : ∀ c, change c = mark ↔ c = mark) (text : List Char) :
    splitAll mark (text.map change) = (splitAll mark text).map (List.map change) := by
  induction text with
  | nil => rfl
  | cons c rest induction =>
      rw [List.map_cons]
      by_cases marks : c = mark
      · have changed : change c = mark := (spares c).mpr marks
        rw [changed, marks, splitAll_cons_mark, splitAll_cons_mark, induction]
        rfl
      · have changed : change c ≠ mark := mt (spares c).mp marks
        rw [splitAll_cons_of_ne changed, splitAll_cons_of_ne marks, induction]
        cases splitAll mark rest <;> rfl

/-! ## Paths -/

/-- The hash of the node that a path of labels leads up from, with the root above its last one. -/
def pathHash : List String → Bytes
  | [] => List.replicate 32 0
  | label :: above =>
      keccak256 (pathHash above ++
        keccak256 (Bytes.ofText (String.ofList (lowerCase label.toList))))

theorem foldl_reverse_childNode (labels : List String) :
    (labels.map String.toList).reverse.foldl childNode rootNode = pathHash labels := by
  -- from the left over the reversed path is from the right over the path itself
  rw [List.foldl_reverse]
  induction labels with
  | nil => rfl
  | cons label above induction =>
      rw [List.map_cons, List.foldr_cons, induction]
      rfl

theorem nameHash_of_ne_empty {name : String} (nonempty : name ≠ "") :
    nameHash name = (splitAll '.' name.toList).reverse.foldl childNode rootNode := by
  rw [nameHash, if_neg]
  simpa using nonempty

/-- The parts between the dots are the labels that were joined. -/
theorem splitAll_intercalate {labels : List String} (nonempty : labels ≠ [])
    (dotless : ∀ label ∈ labels, '.' ∉ label.toList) :
    splitAll '.' (".".intercalate labels).toList = labels.map String.toList := by
  rw [splitAll_eq_splitOn, String.toList_intercalate]
  apply List.splitOn_intercalate
  · intro label member
    rcases List.mem_map.mp member with ⟨name, among, rfl⟩
    exact dotless name among
  · simpa using nonempty

theorem nameHash_intercalate {labels : List String} (nonempty : labels ≠ [])
    (named : labels ≠ [""]) (dotless : ∀ label ∈ labels, '.' ∉ label.toList) :
    nameHash (".".intercalate labels) = pathHash labels := by
  have parts := splitAll_intercalate nonempty dotless
  have something : ".".intercalate labels ≠ "" := by
    intro empty
    rw [empty] at parts
    have single : labels.map String.toList = [""].map String.toList := parts.symm
    exact named ((List.map_inj_right fun _ _ => String.toList_inj.mp).mp single)
  rw [nameHash_of_ne_empty something, parts, foldl_reverse_childNode]

theorem exists_labels {name : String} (nonempty : name ≠ "") :
    ∃ labels : List String, labels ≠ [] ∧ labels ≠ [""] ∧
      (∀ label ∈ labels, '.' ∉ label.toList) ∧ ".".intercalate labels = name := by
  have joined : ".".intercalate ((splitAll '.' name.toList).map String.ofList) = name := by
    have texts : String.toList ∘ String.ofList = id := funext fun _ => String.toList_ofList
    rw [← String.toList_inj, String.toList_intercalate, List.map_map, texts, List.map_id,
      splitAll_eq_splitOn]
    exact List.intercalate_splitOn '.'
  refine ⟨(splitAll '.' name.toList).map String.ofList, ?_, ?_, ?_, joined⟩
  · simp [splitAll_eq_splitOn, List.splitOn_ne_nil]
  · intro single
    rw [single] at joined
    exact nonempty joined.symm
  · intro label member
    rcases List.mem_map.mp member with ⟨part, among, rfl⟩
    rw [String.toList_ofList]
    exact mark_not_mem_of_mem_splitAll among

/-! ## Letter case -/

theorem labelHash_map_toLower (label : List Char) :
    labelHash (label.map Char.toLower) = labelHash label := by
  rw [labelHash, labelHash, lowerCase_map_toLower]

theorem nameHash_toLower (name : String) :
    nameHash (String.ofList (name.toList.map Char.toLower)) = nameHash name := by
  by_cases empty : name = ""
  · rw [empty]
    rfl
  · have changed : String.ofList (name.toList.map Char.toLower) ≠ "" := by
      rw [Ne, ← String.toList_eq_nil_iff, String.toList_ofList, List.map_eq_nil_iff,
        String.toList_eq_nil_iff]
      exact empty
    have sameNode : (fun parent (label : List Char) => childNode parent (label.map Char.toLower)) =
        childNode := by
      funext parent label
      rw [childNode, childNode, labelHash_map_toLower]
    rw [nameHash_of_ne_empty changed, nameHash_of_ne_empty empty, String.toList_ofList,
      splitAll_map (toLower_eq_iff (by decide)), ← List.map_reverse, List.foldl_map, sameNode]

/-- A name is hashed as the path of its labels, and every name but the empty one has labels: between
two dots, or before the first or behind the last one, there may be an empty label. The empty name is
the root itself. Names that differ only in the case of ASCII letters have the same hash. -/
theorem nameHash_follows_path :
    (∀ labels : List String, labels ≠ [] → labels ≠ [""] →
      (∀ label ∈ labels, '.' ∉ label.toList) →
      nameHash (".".intercalate labels) = pathHash labels) ∧
    (∀ name : String, name ≠ "" → ∃ labels : List String, labels ≠ [] ∧ labels ≠ [""] ∧
      (∀ label ∈ labels, '.' ∉ label.toList) ∧ ".".intercalate labels = name) ∧
    nameHash "" = List.replicate 32 0 ∧
    (∀ name other : String,
      name.toList.map Char.toLower = other.toList.map Char.toLower →
      nameHash name = nameHash other) := by
  refine ⟨fun labels nonempty named dotless => ?_, fun name nonempty => ?_, rfl,
    fun name other same => ?_⟩
  · exact nameHash_intercalate nonempty named dotless
  · exact exists_labels nonempty
  · rw [← nameHash_toLower name, same, nameHash_toLower]

/-- A name with an empty label between two others, and a name in two spellings. -/
theorem nameHash_follows_path_of_foo_eth :
    nameHash "Foo..ETH" = pathHash ["Foo", "", "ETH"] ∧
      (∃ labels, labels ≠ [] ∧ labels ≠ [""] ∧ (∀ label ∈ labels, '.' ∉ label.toList) ∧
        ".".intercalate labels = ".eth.") ∧
      nameHash "Foo.ETH" = nameHash "foo.eth" := by
  rcases nameHash_follows_path with ⟨follows, labelled, -, alike⟩
  have joined : ".".intercalate ["Foo", "", "ETH"] = "Foo..ETH" := by decide
  refine ⟨?_, labelled ".eth." (by decide), alike _ _ (by decide)⟩
  rw [← joined]
  exact follows _ (by decide) (by decide) (by decide)

end LendingPool
