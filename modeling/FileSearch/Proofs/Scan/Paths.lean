import FileSearch.Proofs.Scan.Accounts

/-!
# Paths of a run

Every path that is taken from the list is looked at once: it is that of a result found, or of a task
whose file is not done. What is told of the paths may be anything that the results show as well.
-/

namespace FileSearch

/-- The path of a task whose file is not done. -/
def ScanTask.unread? (t : ScanTask) : Option String := if t.report.isNone then some t.path else none

namespace ScanStage

variable {β : Type} {told : String → β} {shown : FileResult → β} {p : ScanPlan}
  {st st' : ScanStage}

def unread (pool : Pool ScanTask) : List String := pool.held.filterMap ScanTask.unread?

theorem unread_delivered {pool : Pool ScanTask} (hasks : pool.asks) (path : String) :
    unread (pool.step (.delivered { path })).1 = unread pool ++ [path] := by
  unfold unread
  rw [Pool.held_delivered hasks, List.filterMap_append]
  rfl

theorem unread_of_settled {pool : Pool ScanTask} (hsettled : pool.settled) : unread pool = [] := by
  rw [unread, Pool.held_of_settled hsettled]
  rfl

/-- What is told of the paths taken is what the results found show, and what is told of the files that
are not done. -/
def Traces (told : String → β) (shown : FileResult → β) (st : ScanStage) : Prop :=
  (st.pulled.map told).Perm (st.found.map shown ++ (unread st.pool).map told)

/-- The file at a path is done, and its result found. -/
theorem Traces.found (h : st.Traces told shown) {path : String} {result : FileResult}
    (hshown : shown result = told path) (hpulled : st'.pulled = st.pulled)
    (hfound : st'.found = st.found ++ [result])
    (hunread : (unread st.pool).Perm (path :: unread st'.pool)) : st'.Traces told shown := by
  have hpaths := (hunread.map told).append_left (st.found.map shown)
  rw [List.map_cons, ← hshown, List.append_cons] at hpaths
  unfold Traces
  rw [hpulled, hfound, List.map_append]
  exact h.trans hpaths

theorem Move.traces (hlog : p.log.Reliable) (hshown : ∀ path, shown (p.scan path).result = told path)
    (hmove : st.Move p st') (hs : st.Sound) (h : st.Traces told shown) : st'.Traces told shown := by
  cases hmove with
  | noted => exact h
  | @pulled path hasks =>
    unfold Traces at h ⊢
    simp only [unread_delivered hasks, List.map_append]
    rw [← List.append_assoc]
    exact h.append_right _
  | sourceEnded => exact h
  | sourceFailed => exact h
  | lost htask hfault =>
    rw [hlog] at hfault
    cases hfault
  | @unreadable index path failure htask hresult =>
    exact h.found (hresult ▸ hshown path) rfl rfl
      (Pool.filterMap_held_finished hs.pool htask _ ScanTask.unread?)
  | @handed index path report moments core htask hresult =>
    obtain ⟨others, hbefore, hafter⟩ := Pool.filterMap_held_update hs.pool htask
      (fun t => { t with report := some report }) ScanTask.unread?
    exact h.found (hresult ▸ hshown path) rfl rfl (hbefore.trans (hafter.symm.cons path))
  | streamed => exact h
  | accepted hdue htask =>
    have hunread := Pool.filterMap_held_finished hs.pool htask none ScanTask.unread?
    exact h.trans ((hunread.map told).append_left (st.found.map shown))
  | @rejected index path report failure rest hdue htask =>
    have hunread := Pool.filterMap_held_finished hs.pool htask (some (.failure failure))
      ScanTask.unread?
    exact h.trans ((hunread.map told).append_left (st.found.map shown))
  | closed => exact h

theorem traces_of_moves (hlog : p.log.Reliable)
    (hshown : ∀ path, shown (p.scan path).result = told path)
    (hmoves : Relation.ReflTransGen (Move p) st st') (hs : st.Sound) (h : st.Traces told shown) :
    st'.Traces told shown :=
  preserved_of_moves (Traces told shown) (fun hmove hs h => hmove.traces hlog hshown hs h) hmoves hs h

end ScanStage

end FileSearch
