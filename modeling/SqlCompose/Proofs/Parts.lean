import SqlCompose.Proofs.Workbench

/-!
# States in parts

A step that changes one part of a state, by what that part was, can be made before or after a step
on another part. So what many steps do to a part is what those on that part do.
-/

namespace SqlCompose

/-- Parts of a state that are read and written without the others. -/
structure Parts (σ γ : Type) where
  Part : γ → Type
  get : (g : γ) → σ → Part g
  set : (g : γ) → Part g → σ → σ
  get_set : ∀ g v s, get g (set g v s) = v
  set_get : ∀ g s, set g (get g s) s = s
  get_set_of_ne : ∀ {g h : γ} v s, h ≠ g → get h (set g v s) = get h s

namespace Parts

variable {σ κ γ : Type} (P : Parts σ γ)

/-- A step changes one part, by what that part was; a step of no part changes none. -/
def Changes (step : σ → σ) : Option γ → Prop
  | some g => ∃ f : P.Part g → P.Part g, ∀ s, step s = P.set g (f (P.get g s)) s
  | none => ∀ g s, P.get g (step s) = P.get g s

variable {P} {step : σ → σ} {o : Option γ} {g : γ}

theorem Changes.of_unchanged (h : ∀ s, step s = s) : P.Changes step o := by
  cases o with
  | none =>
      intro g s
      rw [h]
  | some g =>
      refine ⟨id, fun s => ?_⟩
      rw [h, id, P.set_get]

theorem Changes.get_of_ne (h : P.Changes step o) (ho : o ≠ some g) (s : σ) :
    P.get g (step s) = P.get g s := by
  cases o with
  | none => exact h g s
  | some g' =>
      obtain ⟨f, hf⟩ := h
      rw [hf]
      exact P.get_set_of_ne _ s fun hg => ho (congrArg some hg.symm)

theorem Changes.get_congr (h : P.Changes step (some g)) {s t : σ} (hst : P.get g s = P.get g t) :
    P.get g (step s) = P.get g (step t) := by
  obtain ⟨f, hf⟩ := h
  rw [hf, hf, P.get_set, P.get_set, hst]

variable [DecidableEq γ] {run : σ → κ → σ} {group : κ → Option γ}

/-- For one part, all steps of others can be left out. -/
theorem get_foldl_filter {cs : List κ} (h : ∀ c ∈ cs, P.Changes (run · c) (group c)) {s t : σ}
    (hst : P.get g s = P.get g t) :
    P.get g (cs.foldl run s) = P.get g ((cs.filter (group · = some g)).foldl run t) := by
  induction cs generalizing s t with
  | nil => exact hst
  | cons c cs ih =>
      have hc := h c List.mem_cons_self
      have hcs : ∀ d ∈ cs, P.Changes (run · d) (group d) :=
        fun d hd => h d (List.mem_cons_of_mem c hd)
      rw [List.foldl_cons]
      by_cases hg : group c = some g
      · rw [List.filter_cons_of_pos (by simpa using hg), List.foldl_cons]
        rw [hg] at hc
        exact ih hcs (hc.get_congr hst)
      · rw [List.filter_cons_of_neg (by simpa using hg)]
        exact ih hcs ((hc.get_of_ne hg s).trans hst)

theorem get_foldl_eq {cs ds : List κ} (hcs : ∀ c ∈ cs, P.Changes (run · c) (group c))
    (hds : ∀ c ∈ ds, P.Changes (run · c) (group c))
    (hsame : cs.filter (group · = some g) = ds.filter (group · = some g)) (s : σ) :
    P.get g (cs.foldl run s) = P.get g (ds.foldl run s) := by
  rw [get_foldl_filter hcs rfl, get_foldl_filter hds rfl, hsame]

end Parts

/-! ## Calls -/

/-- The same calls, in the same order within each group. Those of no group do not count. -/
def SameOrder {κ γ : Type} [DecidableEq γ] (group : κ → Option γ) (cs ds : List κ) : Prop :=
  ∀ g, cs.filter (group · = some g) = ds.filter (group · = some g)

theorem run_foldlM {σ κ : Type} (run : σ → κ → StateM Naming σ) (cs : List κ) (s : σ)
    (n : Naming) : (cs.foldlM run s).run n =
      cs.foldl (fun (x : σ × Naming) c => (run x.1 c).run x.2) (s, n) := by
  induction cs generalizing s n with
  | nil => rfl
  | cons c cs ih =>
      rw [List.foldlM_cons, List.foldl_cons]
      exact ih _ _

/-- Calls on different parts may be exchanged: only the order within each group counts. -/
theorem Parts.get_run_eq {σ κ γ : Type} [DecidableEq γ] {P : Parts (σ × Naming) γ}
    {run : σ → κ → StateM Naming σ} {group : κ → Option γ} {cs ds : List κ}
    (h : ∀ c ∈ cs ++ ds, P.Changes (fun x => (run x.1 c).run x.2) (group c))
    (hsame : SameOrder group cs ds) (s : σ) (n : Naming) (g : γ) :
    P.get g ((cs.foldlM run s).run n) = P.get g ((ds.foldlM run s).run n) := by
  rw [run_foldlM, run_foldlM]
  refine get_foldl_eq (fun c hc => ?_) (fun c hc => ?_) (hsame g) (s, n)
  · exact h c (List.mem_append_left ds hc)
  · exact h c (List.mem_append_right cs hc)

/-! ## Tables with names -/

theorem TableSource.ensureLabel_of_named {t : TableSource} (h : t.unnamed = false)
    (namer : NamerId) : t.ensureLabel namer = pure t := by
  funext n
  rcases t.ensureLabel_cases namer n with ⟨-, hrun⟩ | ⟨q, rfl, hq, -⟩
  · exact hrun
  · simp [unnamed, isQuery, label, hq] at h

theorem Join.ensureLabel_of_named {j : Join} (h : j.target.unnamed = false) (namer : NamerId) :
    j.ensureLabel namer = pure j := by
  rw [Join.ensureLabel, TableSource.ensureLabel_of_named h]
  cases j
  rfl

end SqlCompose
