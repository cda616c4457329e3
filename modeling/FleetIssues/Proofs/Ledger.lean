import FleetIssues.Issue.Table
import Mathlib.Data.Finset.Card
import Mathlib.Data.Finset.Image
import Mathlib.Logic.Function.Basic
/-! The issue table against a ledger of the live issues under the ids a counter hands out. -/

namespace FleetIssues.Issue

/-- A write to the issue table. -/
inductive TableOp where
  | insert (draft : IssueDraft)
  | save (issue : Issue)
  | delete (id : Int)

/-- What a write answers: the issue stored, whether a save found its row, whether a delete found
its issue. -/
inductive TableReply where
  | inserted (issue : Issue)
  | saved (result : Except TableError Unit)
  | deleted (found : Bool)

namespace TableOp

/-- Whether a write stores a new issue. -/
def isInsert : TableOp → Bool
  | .insert _ => true
  | _ => false

section Perform

variable {σ : Type} (insert : σ → IssueDraft → σ × Issue) (save : σ → Issue → Except TableError σ)
  (delete : σ → Int → σ × Bool)

/-- Performs one write on a store given by its insert, save and delete; a refused save leaves
the store as it was. -/
def perform (s : σ) : TableOp → σ × TableReply
  | .insert draft => ((insert s draft).1, .inserted (insert s draft).2)
  | .save issue =>
    match save s issue with
    | .ok saved => (saved, .saved (.ok ()))
    | .error e => (s, .saved (.error e))
  | .delete id => ((delete s id).1, .deleted (delete s id).2)

/-- Performs writes in order, answering each. -/
def run (s : σ) : List TableOp → σ × List TableReply
  | [] => (s, [])
  | op :: ops =>
    let first := perform insert save delete s op
    let rest := run first.1 ops
    (rest.1, first.2 :: rest.2)

@[simp] theorem run_nil (s : σ) : run insert save delete s [] = (s, []) := rfl

@[simp] theorem run_cons (s : σ) (op : TableOp) (ops : List TableOp) :
    run insert save delete s (op :: ops) =
      ((run insert save delete (perform insert save delete s op).1 ops).1,
        (perform insert save delete s op).2 :: (run insert save delete (perform insert save delete s op).1 ops).2) :=
  rfl

end Perform

end TableOp

/-- The id the `k`-th insert hands out: `k` as a 64-bit signed word, so that past the largest id
the ids go on from the smallest. -/
def idOf (k : Nat) : Int := (Int64.ofNat k).toInt

/-- Ids are the counts themselves while these fit in a 64-bit signed word. -/
theorem idOf_eq_of_le {k : Nat} (fits : (k : Int) ≤ Int64.maxValue.toInt) : idOf k = k := by
  apply Int64.toInt_ofNat_of_lt
  have top : Int64.maxValue.toInt = 9223372036854775807 := by decide
  omega

/-- Counts below `2^64` hand out distinct ids. -/
theorem idOf_injOn {j k : Nat} (small : j < UInt64.size) (small' : k < UInt64.size)
    (same : idOf j = idOf k) : j = k := by
  have words := congrArg (fun x : Int64 => x.toBitVec.toNat) (Int64.toInt_inj.mp same)
  simp at words
  unfold UInt64.size at small small'
  omega

/-- The table as its callers see it: how many ids have been handed out, and the live issue of each
id. Each live issue is filed under its own id, which an earlier insert handed out. -/
structure Ledger where
  issued : Nat
  live : Int → Option Issue
  keyed : ∀ {id issue}, live id = some issue → issue.id = id
  handedOut : ∀ {id}, (live id).isSome → ∃ k, 0 < k ∧ k ≤ issued ∧ idOf k = id

namespace Ledger

/-- The ledger with no id handed out. -/
def empty : Ledger where
  issued := 0
  live _ := none
  keyed := by simp
  handedOut := by simp

/-- Files a draft under the next id. -/
def insert (m : Ledger) (draft : IssueDraft) : Ledger × Issue :=
  ({ issued := m.issued + 1
     live := Function.update m.live (idOf (m.issued + 1)) (some (draft.toIssue (idOf (m.issued + 1))))
     keyed := by
       intro id issue found
       rw [Function.update_apply] at found
       split at found
       · rename_i next
         cases found
         exact next.symm
       · exact m.keyed found
     handedOut := by
       intro id found
       rw [Function.update_apply] at found
       split at found
       · rename_i next
         exact ⟨m.issued + 1, Nat.succ_pos _, le_refl _, next.symm⟩
       · obtain ⟨k, positive, before, named⟩ := m.handedOut found
         exact ⟨k, positive, Nat.le_succ_of_le before, named⟩ },
   draft.toIssue (idOf (m.issued + 1)))

/-- Replaces a live issue; an id that is not live is not found. -/
def save (m : Ledger) (issue : Issue) : Except TableError Ledger :=
  if live : (m.live issue.id).isSome then
    .ok { m with
      live := Function.update m.live issue.id (some issue)
      keyed := by
        intro id other found
        rw [Function.update_apply] at found
        split at found
        · rename_i same
          cases found
          exact same.symm
        · exact m.keyed found
      handedOut := by
        intro id found
        rw [Function.update_apply] at found
        split at found
        · rename_i same
          exact same ▸ m.handedOut live
        · exact m.handedOut found }
  else .error (.notFound issue.id)

/-- Removes an issue; answers whether it was live. -/
def delete (m : Ledger) (id : Int) : Ledger × Bool :=
  ({ m with
     live := Function.update m.live id none
     keyed := by
       intro k issue found
       rw [Function.update_apply] at found
       split at found
       · cases found
       · exact m.keyed found
     handedOut := by
       intro k found
       rw [Function.update_apply] at found
       split at found
       · simp at found
       · exact m.handedOut found },
   (m.live id).isSome)

/-- Performs a write on the ledger. -/
def exec (m : Ledger) (op : TableOp) : Ledger × TableReply :=
  TableOp.perform insert save delete m op

/-- Performs writes on the ledger in order. -/
def run (m : Ledger) (ops : List TableOp) : Ledger × List TableReply :=
  TableOp.run insert save delete m ops

/-- The ids of the live issues, among the ids handed out. -/
def liveIds (m : Ledger) : Finset Int :=
  ((Finset.range m.issued).image fun k => idOf (k + 1)).filter fun id => (m.live id).isSome

/-- A list names exactly the live issues that satisfy a test, in increasing id order. -/
def Selects (m : Ledger) (issues : List Issue) (p : Issue → Bool) : Prop :=
  issues.Pairwise (·.id < ·.id) ∧ ∀ issue, issue ∈ issues ↔ m.live issue.id = some issue ∧ p issue = true

@[simp] theorem insert_issued (m : Ledger) (draft : IssueDraft) :
    (m.insert draft).1.issued = m.issued + 1 := rfl

@[simp] theorem insert_live (m : Ledger) (draft : IssueDraft) :
    (m.insert draft).1.live =
      Function.update m.live (idOf (m.issued + 1)) (some (draft.toIssue (idOf (m.issued + 1)))) :=
  rfl

@[simp] theorem insert_issue (m : Ledger) (draft : IssueDraft) :
    (m.insert draft).2 = draft.toIssue (idOf (m.issued + 1)) := rfl

theorem save_of_live {m : Ledger} {issue : Issue} (live : (m.live issue.id).isSome) :
    ∃ saved, m.save issue = .ok saved ∧ saved.issued = m.issued ∧
      saved.live = Function.update m.live issue.id (some issue) :=
  ⟨_, dif_pos live, rfl, rfl⟩

theorem save_of_not_live {m : Ledger} {issue : Issue} (absent : m.live issue.id = none) :
    m.save issue = .error (.notFound issue.id) :=
  by simp [save, absent]

@[simp] theorem delete_issued (m : Ledger) (id : Int) : (m.delete id).1.issued = m.issued := rfl

@[simp] theorem delete_live (m : Ledger) (id : Int) :
    (m.delete id).1.live = Function.update m.live id none := rfl

@[simp] theorem delete_found (m : Ledger) (id : Int) : (m.delete id).2 = (m.live id).isSome := rfl

/-- The next id differs from every id handed out, as long as fewer than `2^64` are handed out. -/
theorem idOf_ne_next (m : Ledger) (fits : m.issued + 1 < UInt64.size) {k : Nat} (before : k ≤ m.issued) :
    idOf k ≠ idOf (m.issued + 1) := by
  intro same
  have := idOf_injOn (by omega) fits same
  omega

/-- The next id is not live, as long as fewer than `2^64` ids are handed out. -/
theorem live_next (m : Ledger) (fits : m.issued + 1 < UInt64.size) : m.live (idOf (m.issued + 1)) = none := by
  cases found : m.live (idOf (m.issued + 1)) with
  | none => rfl
  | some issue =>
    obtain ⟨k, -, before, named⟩ := m.handedOut (show (m.live (idOf (m.issued + 1))).isSome by simp [found])
    exact absurd named (m.idOf_ne_next fits before)

/-- Only inserts hand out an id. -/
theorem exec_issued (m : Ledger) (op : TableOp) :
    (m.exec op).1.issued = m.issued + if op.isInsert then 1 else 0 := by
  cases op with
  | insert draft => rfl
  | save issue =>
    simp only [exec, TableOp.perform, TableOp.isInsert]
    by_cases live : (m.live issue.id).isSome
    · obtain ⟨saved, ok, same, -⟩ := save_of_live live
      simp [ok, same]
    · simp [save_of_not_live (Option.not_isSome_iff_eq_none.mp live)]
  | delete id => simp [exec, TableOp.perform, TableOp.isInsert]

/-- After a run, as many more ids are handed out as the run has inserts. -/
theorem run_issued (m : Ledger) (ops : List TableOp) :
    (m.run ops).1.issued = m.issued + ops.countP TableOp.isInsert := by
  induction ops generalizing m with
  | nil => simp [run]
  | cons op ops ih =>
    have step := exec_issued m op
    have rest := ih (m.exec op).1
    simp only [run, exec] at step rest
    simp only [run, TableOp.run_cons, rest, step, List.countP_cons]
    cases op.isInsert <;> simp; omega

end Ledger

namespace IssueTable

/-- Performs a write on the table. -/
def exec (t : IssueTable) (op : TableOp) : IssueTable × TableReply :=
  TableOp.perform IssueTable.insert IssueTable.save IssueTable.delete t op

/-- Performs writes on the table in order. -/
def run (t : IssueTable) (ops : List TableOp) : IssueTable × List TableReply :=
  TableOp.run IssueTable.insert IssueTable.save IssueTable.delete t ops

/-- A table stands for a ledger: a counter at the number of ids handed out, the same live issue
under every id, and rows in strictly increasing id order. -/
structure Represents (t : IssueTable) (m : Ledger) : Prop where
  lastId_eq : t.lastId = Int64.ofNat m.issued
  findById_eq : ∀ id, t.findById id = m.live id
  sorted : t.rows.Pairwise (·.id < ·.id)

variable {t : IssueTable} {m : Ledger}

/-- In rows sorted by id, a row is the first one under its id. -/
theorem find?_id_of_mem {rows : List Issue} (sorted : rows.Pairwise (·.id < ·.id)) {issue : Issue}
    (row : issue ∈ rows) : rows.find? (·.id == issue.id) = some issue := by
  induction rows with
  | nil => cases row
  | cons first rest ih =>
    rw [List.pairwise_cons] at sorted
    rcases List.mem_cons.mp row with same | later
    · subst same
      simp
    · have before := sorted.1 issue later
      have differs : (first.id == issue.id) = false := by simp; omega
      rw [List.find?_cons, differs]
      exact ih sorted.2 later

theorem Represents.mem_rows_iff (h : t.Represents m) {issue : Issue} :
    issue ∈ t.rows ↔ m.live issue.id = some issue := by
  rw [← h.findById_eq]
  exact ⟨find?_id_of_mem h.sorted, List.mem_of_find?_eq_some⟩

/-- A row is found under an id exactly when the id is live. -/
theorem Represents.any_id (h : t.Represents m) (id : Int) :
    t.rows.any (·.id == id) = (m.live id).isSome := by
  rw [← List.isSome_find?]
  exact congrArg Option.isSome (h.findById_eq id)

theorem mem_insertRow {issue row : Issue} {rows : List Issue} (mem : row ∈ insertRow issue rows) :
    row = issue ∨ row ∈ rows := by
  induction rows with
  | nil => simpa [insertRow] using mem
  | cons first rest ih =>
    simp only [insertRow] at mem
    split at mem
    · simpa using mem
    · split at mem
      · simp only [List.mem_cons] at mem ⊢
        rcases mem with rfl | later
        · exact .inl rfl
        · exact .inr (.inr later)
      · rcases List.mem_cons.mp mem with rfl | later
        · exact .inr List.mem_cons_self
        · rcases ih later with rfl | deeper
          · exact .inl rfl
          · exact .inr (List.mem_cons_of_mem _ deeper)

/-- Putting a row in its place keeps rows in strictly increasing id order. -/
theorem insertRow_sorted {issue : Issue} {rows : List Issue} (sorted : rows.Pairwise (·.id < ·.id)) :
    (insertRow issue rows).Pairwise (·.id < ·.id) := by
  induction rows with
  | nil => simp [insertRow]
  | cons first rest ih =>
    rw [List.pairwise_cons] at sorted
    obtain ⟨below, sortedRest⟩ := sorted
    simp only [insertRow]
    split
    · rename_i less
      refine List.pairwise_cons.mpr ⟨fun row listed => ?_, List.pairwise_cons.mpr ⟨below, sortedRest⟩⟩
      rcases List.mem_cons.mp listed with rfl | later
      · exact less
      · exact Int.lt_trans less (below row later)
    · split
      · rename_i same
        exact List.pairwise_cons.mpr ⟨fun row later => same ▸ below row later, sortedRest⟩
      · -- The row goes after `first`, which stays below every row after it.
        rename_i notLess differs
        refine List.pairwise_cons.mpr ⟨fun row listed => ?_, ih sortedRest⟩
        rcases mem_insertRow listed with rfl | later
        · omega
        · exact below row later

/-- Putting a row in its place makes it the row of its id and keeps the row of every other id. -/
theorem find?_insertRow (issue : Issue) (rows : List Issue) (id : Int) :
    (insertRow issue rows).find? (·.id == id) =
      if id = issue.id then some issue else rows.find? (·.id == id) := by
  by_cases at_id : id = issue.id
  · -- The row put in place comes before every row of another id, and replaces its own.
    subst at_id
    rw [if_pos rfl]
    induction rows with
    | nil => simp [insertRow]
    | cons first rest ih =>
      simp only [insertRow]
      split
      · simp
      · split
        · simp
        · rename_i notLess differs
          have other : (first.id == issue.id) = false := by simp; omega
          rw [List.find?_cons, other, ih]
  · have other : (issue.id == id) = false := by simp; omega
    rw [if_neg at_id]
    induction rows with
    | nil => simp [insertRow, other]
    | cons first rest ih =>
      simp only [insertRow]
      split
      · rw [List.find?_cons, other]
      · split
        · rename_i same
          have replaced : (first.id == id) = false := by simp; omega
          rw [List.find?_cons, other, List.find?_cons, replaced]
        · rw [List.find?_cons, ih, List.find?_cons]

@[simp] theorem insert_lastId (t : IssueTable) (draft : IssueDraft) :
    (t.insert draft).1.lastId = t.lastId + 1 := rfl

@[simp] theorem insert_issue_id (t : IssueTable) (draft : IssueDraft) :
    (t.insert draft).2.id = (t.lastId + 1).toInt := rfl

theorem findById_insert (t : IssueTable) (draft : IssueDraft) (id : Int) :
    (t.insert draft).1.findById id =
      if id = (t.lastId + 1).toInt then some (draft.toIssue (t.lastId + 1).toInt) else t.findById id :=
  find?_insertRow _ t.rows id

theorem Represents.insert (h : t.Represents m) (draft : IssueDraft) :
    (t.insert draft).1.Represents (m.insert draft).1 ∧ (t.insert draft).2 = (m.insert draft).2 := by
  have counter : t.lastId + 1 = Int64.ofNat (m.issued + 1) := by
    rw [h.lastId_eq, Int64.ofNat_add]
    rfl
  have next : (t.lastId + 1).toInt = idOf (m.issued + 1) := by rw [counter, idOf]
  refine ⟨⟨counter, fun id => ?_, insertRow_sorted h.sorted⟩, ?_⟩
  · rw [findById_insert, next, h.findById_eq, Ledger.insert_live, Function.update_apply]
  · show draft.toIssue (t.lastId + 1).toInt = _
    rw [next, Ledger.insert_issue]

/-- Replacing the rows that carry an issue's id by the issue keeps every row's id. -/
@[simp] theorem id_replace (issue row : Issue) :
    (if row.id = issue.id then issue else row).id = row.id := by
  split
  · rename_i same
    exact same.symm
  · rfl

theorem Represents.save_ok (h : t.Represents m) {issue : Issue} (live : (m.live issue.id).isSome) :
    ∃ saved mSaved, t.save issue = .ok saved ∧ m.save issue = .ok mSaved ∧ saved.Represents mSaved := by
  obtain ⟨mSaved, ok, sameIssued, sameLive⟩ := Ledger.save_of_live live
  have found : t.rows.any (·.id == issue.id) = true := by rw [h.any_id]; exact live
  have saved : t.save issue =
      .ok { t with rows := t.rows.map fun row => if row.id == issue.id then issue else row } := by
    rw [IssueTable.save, if_pos found]
  refine ⟨_, mSaved, saved, ok, ⟨?_, fun id => ?_, ?_⟩⟩
  · simp [h.lastId_eq, sameIssued]
  · rw [findById_of_save saved, sameLive, Function.update_apply, h.findById_eq]
  · exact List.pairwise_map.mpr (h.sorted.imp fun {a b} lt => by simpa using lt)

theorem Represents.save_error (h : t.Represents m) {issue : Issue} (absent : m.live issue.id = none) :
    t.save issue = .error (.notFound issue.id) ∧ m.save issue = .error (.notFound issue.id) := by
  have missing : t.rows.any (·.id == issue.id) = false := by simp [h.any_id, absent]
  exact ⟨by simp [IssueTable.save, missing], Ledger.save_of_not_live absent⟩

theorem Represents.delete (h : t.Represents m) (id : Int) :
    (t.delete id).1.Represents (m.delete id).1 ∧ (t.delete id).2 = (m.delete id).2 := by
  refine ⟨⟨h.lastId_eq, fun k => ?_, h.sorted.filter _⟩, h.any_id id⟩
  rw [findById_delete, Ledger.delete_live, Function.update_apply, h.findById_eq]

/-- Each write keeps the table standing for the ledger, and both answer alike. -/
theorem Represents.exec (h : t.Represents m) (op : TableOp) :
    (t.exec op).1.Represents (m.exec op).1 ∧ (t.exec op).2 = (m.exec op).2 := by
  cases op with
  | insert draft =>
    obtain ⟨kept, same⟩ := h.insert draft
    exact ⟨kept, by simp [IssueTable.exec, Ledger.exec, TableOp.perform, same]⟩
  | save issue =>
    simp only [IssueTable.exec, Ledger.exec, TableOp.perform]
    cases live : m.live issue.id with
    | none =>
      obtain ⟨refused, mRefused⟩ := h.save_error live
      simp [refused, mRefused, h]
    | some row =>
      obtain ⟨saved, mSaved, ok, mOk, kept⟩ := h.save_ok (show (m.live issue.id).isSome from by simp [live])
      simp [ok, mOk, kept]
  | delete id =>
    obtain ⟨kept, same⟩ := h.delete id
    exact ⟨kept, by simp [IssueTable.exec, Ledger.exec, TableOp.perform, same]⟩

/-- A run of writes keeps the table standing for the ledger, with the same answers. -/
theorem Represents.run (h : t.Represents m) (ops : List TableOp) :
    (t.run ops).1.Represents (m.run ops).1 ∧ (t.run ops).2 = (m.run ops).2 := by
  induction ops generalizing t m with
  | nil => exact ⟨h, rfl⟩
  | cons op ops ih =>
    obtain ⟨kept, same⟩ := h.exec op
    obtain ⟨keptAll, sameAll⟩ := ih kept
    refine ⟨keptAll, ?_⟩
    change (t.exec op).2 :: ((t.exec op).1.run ops).2 = (m.exec op).2 :: ((m.exec op).1.run ops).2
    rw [same, sameAll]

theorem represents_empty : IssueTable.empty.Represents Ledger.empty :=
  ⟨rfl, fun _ => rfl, List.Pairwise.nil⟩

/-- Rows sorted by id list, for any test, exactly the live issues that pass it, in id order. -/
theorem Represents.selects (h : t.Represents m) (p : Issue → Bool) : m.Selects (t.rows.filter p) p :=
  ⟨h.sorted.filter p, fun issue => by rw [List.mem_filter, h.mem_rows_iff]⟩

/-- The count of a table is the number of live ids of its ledger. -/
theorem Represents.count_eq (h : t.Represents m) : t.count = m.liveIds.card := by
  have distinct : (t.rows.map (·.id)).Nodup :=
    (List.pairwise_map.mpr h.sorted).nodup
  have ids : (t.rows.map (·.id)).toFinset = m.liveIds := by
    ext id
    simp only [List.mem_toFinset, List.mem_map, Ledger.liveIds, Finset.mem_filter, Finset.mem_image,
      Finset.mem_range]
    constructor
    · rintro ⟨row, listed, rfl⟩
      have live := h.mem_rows_iff.mp listed
      obtain ⟨k, positive, before, named⟩ := m.handedOut (show (m.live row.id).isSome from by simp [live])
      refine ⟨⟨k - 1, by omega, ?_⟩, by simp [live]⟩
      rw [Nat.sub_add_cancel positive, named]
    · rintro ⟨-, live⟩
      obtain ⟨row, isRow⟩ := Option.isSome_iff_exists.mp live
      exact ⟨row, h.mem_rows_iff.mpr (m.keyed isRow ▸ isRow), m.keyed isRow⟩
  rw [← ids, List.toFinset_card_of_nodup distinct, List.length_map]
  rfl

end IssueTable

/-- A run of inserts from the empty table leaves its counter at their number, as a 64-bit word. -/
theorem IssueTable.run_inserts_lastId (draft : IssueDraft) (k : Nat) :
    (IssueTable.empty.run (List.replicate k (.insert draft))).1.lastId = Int64.ofNat k := by
  rw [(IssueTable.represents_empty.run _).1.lastId_eq, Ledger.run_issued, List.countP_replicate]
  simp [Ledger.empty, TableOp.isInsert]

/-- After `2^63 - 1` inserts the last id is the largest 64-bit signed integer, and the next insert
hands out the smallest one. -/
example (draft : IssueDraft) :
    (IssueTable.empty.run (List.replicate Int64.maxValue.toInt.toNat (.insert draft))).1.lastId =
      Int64.maxValue ∧
    ((IssueTable.empty.run (List.replicate Int64.maxValue.toInt.toNat (.insert draft))).1.insert draft).2.id =
      Int64.minValue.toInt := by
  have last := IssueTable.run_inserts_lastId draft Int64.maxValue.toInt.toNat
  have largest : Int64.ofNat Int64.maxValue.toInt.toNat = Int64.maxValue := by decide
  rw [largest] at last
  refine ⟨last, ?_⟩
  rw [IssueTable.insert_issue_id, last]
  decide

/-- The issue table refines the ledger on every run of writes; the next id is the count of inserts
plus one as a 64-bit signed word, fresh while fewer than `2^64` ids were handed out. -/
theorem issueTable_refines_ledger (ops : List TableOp) :
    let t := (IssueTable.empty.run ops).1
    let m := (Ledger.empty.run ops).1
    let inserts := ops.countP TableOp.isInsert
    let next := idOf (inserts + 1)
    (IssueTable.empty.run ops).2 = (Ledger.empty.run ops).2 ∧
    t.Represents m ∧ m.issued = inserts ∧
    ((inserts + 1 : Int) ≤ Int64.maxValue.toInt → next = inserts + 1) ∧
    (∀ draft, (t.insert draft).2 = draft.toIssue next ∧
      (inserts + 1 < UInt64.size → m.live next = none ∧ ∀ k ≤ inserts, idOf k ≠ next) ∧
      ∀ id, (t.insert draft).1.findById id =
        if id = next then some (draft.toIssue next) else m.live id) ∧
    (∀ issue, (∃ saved, t.save issue = .ok saved) ↔ (m.live issue.id).isSome) ∧
    (∀ issue saved, t.save issue = .ok saved →
      ∀ id, saved.findById id = if id = issue.id then some issue else m.live id) ∧
    (∀ issue, m.live issue.id = none → t.exec (.save issue) = (t, .saved (.error (.notFound issue.id)))) ∧
    (∀ id, (t.delete id).2 = (m.live id).isSome ∧
      ∀ k, (t.delete id).1.findById k = if k = id then none else m.live k) ∧
    (∀ id, t.findById id = m.live id) ∧
    (∀ carrier, m.Selects (t.findByCarrier carrier) (·.carrier == carrier)) ∧
    (∀ manager, m.Selects (t.findByManager manager) (·.manager == manager)) ∧
    (∀ type, m.Selects (t.findByType type) (·.type == type)) ∧
    t.count = m.liveIds.card := by
  intro t m inserts next
  obtain ⟨h, replies⟩ : t.Represents m ∧ (IssueTable.empty.run ops).2 = (Ledger.empty.run ops).2 :=
    IssueTable.represents_empty.run ops
  have counted : m.issued = inserts := by
    change (Ledger.empty.run ops).1.issued = ops.countP TableOp.isInsert
    rw [Ledger.run_issued]
    simp [Ledger.empty]
  refine ⟨replies, h, counted, idOf_eq_of_le, ?_, ?_, ?_, ?_, ?_, h.findById_eq, fun _ => h.selects _,
    fun _ => h.selects _, fun _ => h.selects _, h.count_eq⟩
  · intro draft
    obtain ⟨kept, same⟩ := h.insert draft
    have fresh : inserts + 1 < UInt64.size → m.live next = none ∧ ∀ k ≤ inserts, idOf k ≠ next := by
      intro fits
      have fits' : m.issued + 1 < UInt64.size := counted ▸ fits
      refine ⟨?_, fun k before => ?_⟩
      · show m.live (idOf (inserts + 1)) = none
        rw [← counted]
        exact m.live_next fits'
      · show idOf k ≠ idOf (inserts + 1)
        rw [← counted] at before ⊢
        exact m.idOf_ne_next fits' before
    refine ⟨by rw [same, Ledger.insert_issue, counted], fresh, fun id => ?_⟩
    rw [kept.findById_eq, Ledger.insert_live, counted, Function.update_apply]
  · intro issue
    constructor
    · rintro ⟨saved, ok⟩
      cases live : m.live issue.id with
      | none => simp [(h.save_error live).1] at ok
      | some row => rfl
    · intro live
      obtain ⟨saved, -, ok, -⟩ := h.save_ok live
      exact ⟨saved, ok⟩
  · intro issue saved ok id
    rw [IssueTable.findById_of_save ok, h.findById_eq]
  · intro issue absent
    simp [IssueTable.exec, TableOp.perform, (h.save_error absent).1]
  · intro id
    refine ⟨(h.delete id).2, fun k => ?_⟩
    rw [IssueTable.findById_delete, h.findById_eq]

end FleetIssues.Issue
