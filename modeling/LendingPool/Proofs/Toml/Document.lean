import LendingPool.Proofs.Toml.Places
import LendingPool.Toml.Document
import Mathlib.Data.Option.Basic
/-! The value of a document is proper. What a scanner can yield is told by what its parts can
yield, whatever text they are given. -/

namespace LendingPool

/-! ## What scanners yield -/

/-- All values that a scanner can give are of a kind. -/
def Scanner.Yields {α : Type} (kind : α → Prop) (scanner : Scanner α) : Prop :=
  ∀ text value rest, scanner.run text = some (value, rest) → kind value

namespace Scanner

section

variable {α β : Type} {kind : α → Prop} {next : β → Prop} {scanner : Scanner α}

theorem yields_any (scanner : Scanner α) : scanner.Yields fun _ => True :=
  fun _ _ _ _ => trivial

theorem Yields.imp (yields : scanner.Yields kind) {other : α → Prop}
    (imp : ∀ value, kind value → other value) : scanner.Yields other :=
  fun text value rest run => imp value (yields text value rest run)

theorem yields_pure {value : α} (holds : kind value) : Yields kind (pure value : Scanner α) := by
  rintro text _ rest ⟨⟩
  exact holds

theorem yields_failure : Yields kind (failure : Scanner α) :=
  nofun

theorem yields_guard {condition : Prop} [Decidable condition] :
    Yields (fun _ => condition) (guard condition : Scanner Unit) := by
  intro text value rest run
  change (if condition then pure () else failure : Scanner Unit).run text = _ at run
  by_cases holds : condition
  · exact holds
  · rw [if_neg holds] at run
    cases run

theorem yields_elim {found : Option α} (holds : ∀ value, found = some value → kind value) :
    Yields kind (found.elim failure pure) := by
  cases found with
  | none => exact yields_failure
  | some value => exact yields_pure (holds value rfl)

theorem Yields.bind (yields : scanner.Yields kind) {follow : α → Scanner β}
    (follows : ∀ value, kind value → (follow value).Yields next) :
    (scanner >>= follow).Yields next := by
  intro text value rest run
  rw [StateT.run_bind] at run
  rcases Option.bind_eq_some_iff.mp run with ⟨⟨first, left⟩, ran, run⟩
  exact follows first (yields text first left ran) left value rest run

theorem yields_bind {follow : α → Scanner β} (follows : ∀ value, (follow value).Yields next) :
    (scanner >>= follow).Yields next :=
  scanner.yields_any.bind fun value _ => follows value

theorem Yields.map (yields : scanner.Yields kind) {change : α → β}
    (changes : ∀ value, kind value → next (change value)) : (change <$> scanner).Yields next := by
  rw [map_eq_pure_bind]
  exact yields.bind fun value holds => yields_pure (changes value holds)

theorem Yields.orElse (yields : scanner.Yields kind) {other : Scanner α}
    (otherYields : other.Yields kind) : (scanner <|> other).Yields kind := by
  intro text value rest run
  have either : (scanner.run text).or (other.run text) = some (value, rest) :=
    Option.orElse_eq_or.symm.trans run
  rcases Option.or_eq_some_iff.mp either with ran | ⟨-, ran⟩
  · exact yields text value rest ran
  · exact otherYields text value rest ran

theorem Yields.opt (yields : scanner.Yields kind) :
    scanner.opt.Yields fun found => ∀ value ∈ found, kind value :=
  (yields.map fun _ holds _ found => Option.some.inj found ▸ holds).orElse (yields_pure nofun)

theorem forall_mem_getD {found : Option (List α)}
    (holds : ∀ values ∈ found, ∀ value ∈ values, kind value) :
    ∀ value ∈ found.getD [], kind value := by
  cases found with
  | none => exact List.forall_mem_nil _
  | some values => exact holds values rfl

theorem Yields.many (yields : scanner.Yields kind) (limit : Nat) :
    (scanner.many limit).Yields fun values => ∀ value ∈ values, kind value := by
  induction limit with
  | zero => exact yields_pure (List.forall_mem_nil _)
  | succ limit induction =>
      refine yields.opt.bind fun found holds => ?_
      cases found with
      | none => exact yields_pure (List.forall_mem_nil _)
      | some value =>
          refine induction.bind fun values all => yields_pure ?_
          exact List.forall_mem_cons.mpr ⟨holds value rfl, all⟩

theorem Yields.separated (yields : scanner.Yields kind) (separator : Scanner Unit) :
    (scanner.separated separator).Yields fun values => ∀ value ∈ values, kind value := by
  refine yields.bind fun first holds => ?_
  have again : Yields kind (do separator; scanner) := yields_bind fun _ => yields
  refine Yields.bind (yields_bind fun _ => again.many _) fun values all => yields_pure ?_
  exact List.forall_mem_cons.mpr ⟨holds, all⟩

end

end Scanner

/-! ## Tables -/

namespace Toml

section

variable {entries : List (String × Toml)} {key : String} {value : Toml}

theorem mem_insertEntry {entry : String × Toml} (member : entry ∈ insertEntry key value entries) :
    entry = (key, value) ∨ entry ∈ entries := by
  induction entries with
  | nil => exact .inl (List.mem_singleton.mp member)
  | cons first entries induction =>
      rw [insertEntry] at member
      split at member
      · exact List.mem_cons.mp member
      · split at member
        · exact (List.mem_cons.mp member).imp_right (List.mem_cons_of_mem _)
        · rcases List.mem_cons.mp member with rfl | later
          · exact .inr List.mem_cons_self
          · exact (induction later).imp_right (List.mem_cons_of_mem _)

theorem sorted_insertEntry (sorted : entries.Pairwise (·.1 < ·.1)) :
    (insertEntry key value entries).Pairwise (·.1 < ·.1) := by
  induction entries with
  | nil => exact List.pairwise_singleton _ _
  | cons first entries induction =>
      rcases List.pairwise_cons.mp sorted with ⟨least, sortedRest⟩
      rw [insertEntry]
      by_cases less : key < first.1
      · rw [if_pos less]
        refine List.pairwise_cons.mpr ⟨fun entry member => ?_, sorted⟩
        rcases List.mem_cons.mp member with rfl | later
        · exact less
        · exact String.lt_trans less (least entry later)
      · rw [if_neg less]
        split
        · rename_i same
          exact List.pairwise_cons.mpr ⟨same ▸ least, sortedRest⟩
        · rename_i apart
          refine List.pairwise_cons.mpr ⟨fun entry member => ?_, induction sortedRest⟩
          rcases mem_insertEntry member with rfl | later
          · exact Std.lt_of_le_of_ne (String.not_lt.mp less) (Ne.symm apart)
          · exact least entry later

theorem ofEntries_proper (proper : ∀ entry ∈ entries, entry.2.Proper) :
    (ofEntries entries).Proper := by
  suffices inserted : ∀ sorted : List (String × Toml), (table sorted).Proper →
      (table (entries.foldl (fun sorted entry => insertEntry entry.1 entry.2 sorted)
        sorted)).Proper from inserted [] (by simp)
  induction entries with
  | nil => exact fun _ sortedProper => sortedProper
  | cons entry entries induction =>
      rcases List.forall_mem_cons.mp proper with ⟨first, rest⟩
      intro sorted sortedProper
      refine induction rest _ ?_
      rw [proper_table_iff] at sortedProper ⊢
      refine ⟨sorted_insertEntry sortedProper.1, fun other member => ?_⟩
      rcases mem_insertEntry member with rfl | present
      · exact first
      · exact sortedProper.2 other present

end

/-! ## Tables under construction -/

inductive Node.Proper : Node → Prop
  | value {value : Toml} (proper : value.Proper) : Proper (.value value)
  | table {origin : Origin} {nodes : Nodes} (proper : ∀ entry ∈ nodes, Proper entry.2) :
      Proper (.table origin nodes)
  | tables {earlier : List Nodes} {last : Nodes}
      (earlierProper : ∀ nodes ∈ earlier, ∀ entry ∈ nodes, Proper entry.2)
      (lastProper : ∀ entry ∈ last, Proper entry.2) : Proper (.tables earlier last)

def Nodes.Proper (nodes : Nodes) : Prop :=
  ∀ entry ∈ nodes, entry.2.Proper

namespace Node

theorem mem_entries {nodes : Nodes} {entry : String × Toml} (member : entry ∈ entries nodes) :
    ∃ node, (entry.1, node) ∈ nodes ∧ entry.2 = node.toToml := by
  induction nodes with
  | nil => cases member
  | cons first nodes induction =>
      rw [entries] at member
      rcases List.mem_cons.mp member with rfl | later
      · exact ⟨first.2, List.mem_cons_self, rfl⟩
      · rcases induction later with ⟨node, present, same⟩
        exact ⟨node, List.mem_cons_of_mem _ present, same⟩

theorem tomls_eq_map (tables : List Nodes) :
    tomls tables = tables.map fun nodes => .ofEntries (entries nodes) := by
  induction tables with
  | nil => rfl
  | cons nodes tables induction => rw [tomls, induction, List.map_cons]

theorem entries_proper {nodes : Nodes} (proper : ∀ entry ∈ nodes, entry.2.toToml.Proper) :
    ∀ entry ∈ entries nodes, entry.2.Proper := by
  intro entry member
  rcases mem_entries member with ⟨node, present, same⟩
  rw [same]
  exact proper _ present

theorem Proper.toToml {node : Node} (proper : node.Proper) : node.toToml.Proper := by
  induction proper with
  | value proper => exact proper
  | table _ induction => exact ofEntries_proper (entries_proper induction)
  | @tables earlier last _ _ earlierInduction lastInduction =>
      rw [Node.toToml, tomls_eq_map]
      refine .array fun item member => ?_
      rcases List.mem_append.mp member with before | final
      · rcases List.mem_map.mp before with ⟨nodes, present, rfl⟩
        exact ofEntries_proper (entries_proper (earlierInduction nodes present))
      · rw [List.mem_singleton.mp final]
        exact ofEntries_proper (entries_proper lastInduction)

variable {nodes changed : Nodes} {key : String} {node : Node}

theorem ofEntries_entries_proper (proper : nodes.Proper) : (ofEntries (entries nodes)).Proper :=
  ofEntries_proper (entries_proper fun entry member => (proper entry member).toToml)

theorem put_proper (proper : nodes.Proper) (putProper : node.Proper) :
    Nodes.Proper (put key node nodes) := by
  induction nodes with
  | nil => exact List.forall_mem_singleton.mpr putProper
  | cons entry nodes induction =>
      rcases List.forall_mem_cons.mp proper with ⟨first, rest⟩
      rw [put]
      split
      · exact List.forall_mem_cons.mpr ⟨putProper, rest⟩
      · exact List.forall_mem_cons.mpr ⟨first, induction rest⟩

theorem proper_of_lookup (proper : nodes.Proper) (found : nodes.lookup key = some node) :
    node.Proper :=
  proper (key, node) (mem_of_lookup found)

/-- A change that keeps nodes proper at the end of a path keeps all nodes proper. -/
theorem modify_proper {keys : Bool} {change : Origin → Nodes → Option Nodes}
    (keeps : ∀ origin nodes changed, Nodes.Proper nodes → change origin nodes = some changed →
      Nodes.Proper changed) {path : List String} {origin : Origin} (proper : nodes.Proper)
    (changes : modify keys change path origin nodes = some changed) : changed.Proper := by
  induction path generalizing origin nodes changed with
  | nil => exact keeps origin nodes changed proper changes
  | cons key path induction =>
      rw [modify] at changes
      cases found : nodes.lookup key with
      | none =>
          rw [found] at changes
          rcases Option.bind_eq_some_iff.mp changes with ⟨inner, inside, ⟨⟩⟩
          exact put_proper proper (.table (induction (List.forall_mem_nil _) inside))
      | some node =>
          have nodeProper := proper_of_lookup proper found
          rw [found] at changes
          cases nodeProper with
          | value => cases changes
          | table innerProper =>
              rcases Option.bind_eq_some_iff.mp changes with ⟨_, -, changes⟩
              rcases Option.bind_eq_some_iff.mp changes with ⟨inner, inside, ⟨⟩⟩
              exact put_proper proper (.table (induction innerProper inside))
          | tables earlierProper lastProper =>
              rcases Option.bind_eq_some_iff.mp changes with ⟨inner, inside, ⟨⟩⟩
              exact put_proper proper (.tables earlierProper (induction lastProper inside))

theorem setValue_proper {path : List String} {value : Toml} (proper : nodes.Proper)
    (valueProper : value.Proper) (sets : setValue path value nodes = some changed) :
    changed.Proper := by
  rcases Option.bind_eq_some_iff.mp sets with ⟨key, -, sets⟩
  refine modify_proper (fun _ nodes changed proper set => ?_) proper sets
  rcases Option.bind_eq_some_iff.mp set with ⟨_, -, set⟩
  rcases Option.bind_eq_some_iff.mp set with ⟨_, -, ⟨⟩⟩
  exact put_proper proper (.value valueProper)

theorem setAll_proper {pairs : List (List String × Toml)} (proper : nodes.Proper)
    (pairsProper : ∀ pair ∈ pairs, pair.2.Proper)
    (sets : pairs.foldlM (fun nodes (path, given) => setValue path given nodes) nodes =
      some changed) : changed.Proper := by
  induction pairs generalizing nodes with
  | nil =>
      cases sets
      exact proper
  | cons pair pairs induction =>
      rcases List.forall_mem_cons.mp pairsProper with ⟨first, rest⟩
      rw [List.foldlM_cons] at sets
      rcases Option.bind_eq_some_iff.mp sets with ⟨next, set, sets⟩
      exact induction (setValue_proper proper first set) rest sets

theorem openTable_proper {path : List String} (proper : nodes.Proper)
    (opens : openTable path nodes = some changed) : changed.Proper := by
  rcases Option.bind_eq_some_iff.mp opens with ⟨key, -, opens⟩
  refine modify_proper (fun _ nodes changed proper opened => ?_) proper opens
  split at opened
  · cases opened
    exact put_proper proper (.table (List.forall_mem_nil _))
  · rename_i inner found
    cases opened
    rcases proper_of_lookup proper found with - | innerProper
    exact put_proper proper (.table innerProper)
  · cases opened

theorem openNext_proper {path : List String} (proper : nodes.Proper)
    (opens : openNext path nodes = some changed) : changed.Proper := by
  rcases Option.bind_eq_some_iff.mp opens with ⟨key, -, opens⟩
  refine modify_proper (fun _ nodes changed proper opened => ?_) proper opens
  split at opened
  · cases opened
    exact put_proper proper (.tables (List.forall_mem_nil _) (List.forall_mem_nil _))
  · rename_i earlier last found
    cases opened
    rcases proper_of_lookup proper found with - | - | ⟨earlierProper, lastProper⟩
    refine put_proper proper (.tables ?_ (List.forall_mem_nil _))
    exact List.forall_mem_append.mpr ⟨earlierProper, List.forall_mem_singleton.mpr lastProper⟩
  · cases opened

end Node

/-! ## Values -/

namespace Grammar

open Scanner

theorem inRange_yields (value : Int) : (inRange value).Yields Proper :=
  yields_guard.bind fun _ ⟨least, greatest⟩ => yields_pure (.integer least greatest)

theorem basedInteger_yields (mark : List Char) (base : Nat) (isDigit : Char → Bool) :
    (basedInteger mark base isDigit).Yields Proper :=
  yields_bind fun _ => yields_bind fun _ => inRange_yields _

theorem integer_yields : integer.Yields Proper :=
  (basedInteger_yields _ _ _).orElse <| (basedInteger_yields _ _ _).orElse <|
    (basedInteger_yields _ _ _).orElse <| yields_bind fun _ => inRange_yields _

theorem decimalFloat_yields : decimalFloat.Yields Proper :=
  yields_bind fun _ => yields_bind fun _ => yields_bind fun _ => yields_bind fun _ =>
    yields_bind fun _ => yields_pure (.float _)

theorem number_yields : number.Yields Proper := by
  refine Yields.orElse ?_ (decimalFloat_yields.orElse (Yields.orElse ?_ integer_yields))
  · exact yields_bind fun _ => yields_bind fun _ => yields_bind fun _ => yields_pure (.datetime _)
  · exact yields_bind fun _ => yields_bind fun _ => yields_pure (.float none)

theorem boolean_yields : boolean.Yields Proper :=
  (yields_bind fun _ => yields_pure (.boolean true)).orElse
    (yields_bind fun _ => yields_pure (.boolean false))

theorem scalar_yields : scalar.Yields Proper := by
  refine yields_bind fun next => ?_
  split
  · exact text.yields_any.map fun text _ => .string text
  · exact text.yields_any.map fun text _ => .string text
  · exact boolean_yields
  · exact boolean_yields
  · exact number_yields

section

variable {item : Scanner Toml} (items : item.Yields Proper)
include items

theorem arrayOf_yields : (arrayOf item).Yields Proper := by
  have spaced : Scanner.Yields Proper (do spacing; let item ← item; spacing; return item) :=
    yields_bind fun _ => items.bind fun _ proper => yields_bind fun _ => yields_pure proper
  refine yields_bind fun _ => (Yields.opt ?_).bind
    fun found (proper : ∀ items ∈ found, ∀ item ∈ items, Toml.Proper item) => ?_
  · exact (spaced.separated _).bind fun _ proper => yields_bind fun _ => yields_pure proper
  · exact yields_bind fun _ => yields_bind fun _ => yields_pure (.array (forall_mem_getD proper))

theorem pairOf_yields : (pairOf item).Yields fun pair => pair.2.Proper :=
  yields_bind fun _ => yields_bind fun _ => yields_bind fun _ => items.bind fun _ proper =>
    yields_bind fun _ => yields_pure proper

theorem inlineTableOf_yields : (inlineTableOf item).Yields Proper := by
  refine yields_bind fun _ => ((pairOf_yields items).separated _).opt.bind fun found proper => ?_
  refine yields_bind fun _ => yields_bind fun _ => ?_
  split
  · rename_i nodes sets
    have nodesProper :=
      Node.setAll_proper (List.forall_mem_nil _) (forall_mem_getD proper) sets
    exact yields_pure (Node.ofEntries_entries_proper nodesProper)
  · exact yields_failure

end

theorem value_yields (levels : Nat) : (value levels).Yields Proper := by
  induction levels with
  | zero => exact scalar_yields
  | succ levels induction =>
      refine yields_bind fun next => ?_
      split
      · exact arrayOf_yields induction
      · exact inlineTableOf_yields induction
      · exact scalar_yields

/-! ## Lines -/

namespace Building

variable {building : Building}

theorem set_proper {changed : Building} {path : List String} {value : Toml}
    (proper : building.nodes.Proper) (valueProper : value.Proper)
    (sets : building.set path value = some changed) : changed.nodes.Proper := by
  rcases Option.bind_eq_some_iff.mp sets with ⟨nodes, modifies, ⟨⟩⟩
  exact Node.modify_proper (fun _ _ _ proper set => Node.setValue_proper proper valueProper set)
    proper modifies

variable (proper : building.nodes.Proper)
include proper

theorem header_yields : building.header.Yields (·.nodes.Proper) := by
  refine yields_bind fun _ => yields_bind fun double => ?_
  cases double with
  | none =>
      refine yields_bind fun path => yields_bind fun _ => ?_
      exact (yields_elim fun _ opens => Node.openTable_proper proper opens).bind fun _ opened =>
        yields_pure opened
  | some _ =>
      refine yields_bind fun path => yields_bind fun _ => ?_
      exact (yields_elim fun _ opens => Node.openNext_proper proper opens).bind fun _ opened =>
        yields_pure opened

theorem line_yields : building.line.Yields (·.nodes.Proper) := by
  refine yields_bind fun _ => yields_bind fun next => ?_
  split
  · exact yields_failure
  · exact (header_yields proper).bind fun _ opened => yields_bind fun _ => yields_pure opened
  · exact yields_bind fun _ => yields_pure proper
  · exact yields_bind fun _ => yields_pure proper
  · exact yields_bind fun _ => yields_pure proper
  · refine (pairOf_yields (value_yields _)).bind fun pair pairProper => yields_bind fun _ => ?_
    exact yields_elim fun _ sets => set_proper proper pairProper sets

theorem lines_yields (limit : Nat) : (building.lines limit).Yields (·.nodes.Proper) := by
  induction limit generalizing building with
  | zero => exact yields_pure proper
  | succ limit induction =>
      refine (line_yields proper).opt.bind fun next nextProper => ?_
      cases next with
      | none => exact yields_pure proper
      | some next => exact induction (nextProper next rfl)

end Building

theorem document_yields : document.Yields Proper := by
  have start : Nodes.Proper (Building.nodes ⟨[], []⟩) := List.forall_mem_nil _
  refine yields_bind fun _ => yields_bind fun text => ?_
  refine (Building.lines_yields start text.length).bind fun _ proper => ?_
  exact yields_bind fun _ => yields_bind fun _ =>
    yields_pure (Node.ofEntries_entries_proper proper)

end Grammar

theorem parse?_proper {text : String} {document : Toml} (reads : parse? text = some document) :
    document.Proper := by
  rcases Option.map_eq_some_iff.mp reads with ⟨⟨_, rest⟩, run, rfl⟩
  exact Grammar.document_yields _ _ rest run

end Toml

end LendingPool
