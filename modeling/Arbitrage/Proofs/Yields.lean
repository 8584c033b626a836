import Arbitrage.Log

namespace Arbitrage

section Plain

variable {β γ : Type}

theorem bind_eq_ok {x : Except Fault β} {f : β → Except Fault γ} {c : γ} :
    x >>= f = .ok c ↔ ∃ b, x = .ok b ∧ f b = .ok c := by
  cases x <;> simp [bind, Except.bind]

theorem pure_eq_ok {b c : β} : (pure b : Except Fault β) = .ok c ↔ b = c := by
  simp [pure, Except.pure]

theorem ok_bind (b : β) (f : β → Except Fault γ) : (Except.ok b >>= f : Except Fault γ) = f b :=
  rfl

theorem error_bind (e : Fault) (f : β → Except Fault γ) :
    (Except.error e >>= f : Except Fault γ) = .error e := rfl

theorem mapM_eq_ok_map {δ : Type} {f : δ → Except Fault β} {g : δ → β} :
    ∀ {l : List δ}, (∀ x ∈ l, f x = .ok (g x)) → l.mapM f = .ok (l.map g)
  | [], _ => rfl
  | x :: l, h => by
    rw [List.mapM_cons, h x List.mem_cons_self, ok_bind,
      mapM_eq_ok_map fun y hy => h y (List.mem_cons_of_mem x hy)]
    rfl

theorem foldlM_invariant {δ : Type} {P : β → Prop} {f : β → δ → Except Fault β}
    (hstep : ∀ b d b', P b → f b d = .ok b' → P b') :
    ∀ (l : List δ) (b b' : β), P b → l.foldlM f b = .ok b' → P b'
  | [], b, b', hb, h => by
    rw [List.foldlM_nil, pure_eq_ok] at h
    exact h ▸ hb
  | d :: l, b, b', hb, h => by
    rw [List.foldlM_cons] at h
    obtain ⟨b'', hd, hl⟩ := bind_eq_ok.1 h
    exact foldlM_invariant hstep l b'' b' (hstep b d b'' hb hd) hl

theorem forIn_invariant {δ : Type} {P : β → Prop} {f : δ → β → Except Fault (ForInStep β)}
    (hstep : ∀ d b r, P b → f d b = .ok r → P r.value) :
    ∀ (l : List δ) (b b' : β), P b → forIn l b f = .ok b' → P b'
  | [], b, b', hb, h => by
    rw [List.forIn_nil, pure_eq_ok] at h
    exact h ▸ hb
  | d :: l, b, b', hb, h => by
    rw [List.forIn_cons] at h
    obtain ⟨r, hd, hl⟩ := bind_eq_ok.1 h
    have hr := hstep d b r hb hd
    cases r with
    | done c =>
      rw [pure_eq_ok] at hl
      exact hl ▸ hr
    | yield c => exact forIn_invariant hstep l c b' hr hl

theorem bind_eq_error_iff {x : Except Fault β} {f : β → Except Fault γ} {e : Fault} :
    x >>= f = .error e ↔ x = .error e ∨ ∃ b, x = .ok b ∧ f b = .error e := by
  cases x <;> simp [bind, Except.bind]

theorem foldlM_ok {δ : Type} {P : β → Prop} {f : β → δ → Except Fault β} :
    ∀ (l : List δ), (∀ b, ∀ d ∈ l, P b → ∃ b', f b d = .ok b' ∧ P b') →
      ∀ b, P b → ∃ b', l.foldlM f b = .ok b' ∧ P b'
  | [], _, b, hb => ⟨b, rfl, hb⟩
  | d :: l, hstep, b, hb => by
    obtain ⟨b', hd, hb'⟩ := hstep b d List.mem_cons_self hb
    rw [List.foldlM_cons, hd, ok_bind]
    exact foldlM_ok l (fun c d' hd' hc => hstep c d' (List.mem_cons_of_mem _ hd') hc) b' hb'

theorem foldlM_ok_of_forall {δ : Type} {f : β → δ → Except Fault β} (l : List δ)
    (hstep : ∀ b, ∀ d ∈ l, ∃ b', f b d = .ok b') (b : β) : ∃ b', l.foldlM f b = .ok b' :=
  (foldlM_ok (P := fun _ => True) l (fun b d hd _ => (hstep b d hd).imp fun _ h => ⟨h, trivial⟩)
    b trivial).imp fun _ h => h.1

theorem ite_bind_eq_error_iff {c : Prop} [Decidable c] {x : Except Fault β} {b₀ : β}
    {f : β → Except Fault γ} {e : Fault} {P : Prop} (hx : ∃ b, x = .ok b)
    (hf : ∀ b, f b = .error e ↔ P) : (if c then x >>= f else pure b₀ >>= f) = .error e ↔ P := by
  split
  · obtain ⟨b, rfl⟩ := hx
    exact hf b
  · exact hf b₀

theorem bind_ok_of_ok {x : Except Fault β} {f : β → Except Fault γ} {P : β → Prop}
    (hx : ∃ b, x = .ok b ∧ P b) (hf : ∀ b, P b → ∃ c, f b = .ok c) : ∃ c, x >>= f = .ok c := by
  obtain ⟨b, hb, hp⟩ := hx
  rw [hb, ok_bind]
  exact hf b hp

end Plain

namespace Logged

variable {β γ : Type}

/-- Logged work `x` comes to `r`, whatever log it starts from. -/
def Yields (x : Logged β) (r : Except Fault β) : Prop :=
  ∀ ls, ((ExceptT.run x).run ls).1 = r

theorem Yields.unique {x : Logged β} {r r' : Except Fault β} (h : Yields x r)
    (h' : Yields x r') : r = r' := by
  rw [← h #[], h' #[]]

theorem yields_pure (b : β) : Yields (pure b : Logged β) (.ok b) := fun _ => rfl

theorem yields_throw (e : Fault) : Yields (throw e : Logged β) (.error e) := fun _ => rfl

theorem yields_ofExcept (r : Except Fault β) : Yields (ofExcept r) r := by
  intro ls
  cases r <;> rfl

theorem yields_write (severity : Severity) (logger message : String) :
    Yields (write severity logger message) (.ok ()) := fun _ => rfl

theorem yields_debugIf (on : Bool) (logger message : String) :
    Yields (debugIf on logger message) (.ok ()) := by
  cases on
  · exact yields_pure ()
  · exact yields_write .debug logger message

theorem Yields.bind {x : Logged β} {f : β → Logged γ} {r : Except Fault β}
    {g : β → Except Fault γ} (hx : Yields x r) (hf : ∀ b, r = .ok b → Yields (f b) (g b)) :
    Yields (x >>= f) (r.bind g) := by
  intro ls
  have h := hx ls
  simp only [ExceptT.run_bind, StateT.run_bind]
  rcases hp : StateT.run (ExceptT.run x) ls with ⟨rx, ls'⟩
  rw [hp] at h
  subst h
  cases rx with
  | error e => rfl
  | ok b => exact hf b rfl ls'

theorem Yields.bind_ok {x : Logged β} {f : β → Logged γ} {b : β} {r : Except Fault γ}
    (hx : Yields x (.ok b)) (hf : Yields (f b) r) : Yields (x >>= f) r :=
  hx.bind (g := fun _ => r) fun b' hb => by
    cases hb
    exact hf

theorem Yields.bind_error {x : Logged β} {f : β → Logged γ} {e : Fault}
    (hx : Yields x (.error e)) : Yields (x >>= f) (.error e) :=
  hx.bind (g := fun _ => .error e) fun _ hb => by cases hb

theorem Yields.map {x : Logged β} {r : Except Fault β} (f : β → γ) (hx : Yields x r) :
    Yields (f <$> x) (f <$> r) := by
  have h := hx.bind (f := fun b => pure (f b)) (g := fun b => .ok (f b))
    fun b _ => yields_pure (f b)
  rw [map_eq_pure_bind]
  cases r <;> exact h

theorem Yields.ite_bind {c : Prop} [Decidable c] {x y : Logged β} {r s : Except Fault β}
    {f : β → Logged γ} {g : β → Except Fault γ} (hx : c → Yields x r) (hy : ¬c → Yields y s)
    (hf : ∀ b, Yields (f b) (g b)) :
    Yields (if c then x >>= f else y >>= f) (if c then r >>= g else s >>= g) := by
  by_cases hc : c
  · rw [if_pos hc, if_pos hc]
    exact (hx hc).bind fun b _ => hf b
  · rw [if_neg hc, if_neg hc]
    exact (hy hc).bind fun b _ => hf b

end Logged

end Arbitrage
