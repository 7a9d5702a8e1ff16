import Rehearsal.Directive.Registry

/-! A directive is of the first form whose pattern occurs in it. -/

namespace Rehearsal.DirectiveRegistry

variable {directive : String}

/-- The first form of a registry whose pattern occurs in a directive, and what is found of it. -/
structure IsFirst (registry : DirectiveRegistry) (directive : String) (place : Nat)
    (form : DirectiveForm) (found : Pattern.Match) : Prop where
  stands : registry.forms[place]? = some form
  hit : form.pattern.search directive = some found
  misses
    : ∀ earlier < place, ∀ other,
        registry.forms[earlier]? = some other → other.pattern.search directive = none

/-- Forms whose patterns do not occur in a directive are passed over, by induction on them. -/
theorem resolveFrom_append {before : List DirectiveForm}
    (misses : ∀ form ∈ before, form.pattern.search directive = none) (place : Nat)
    (after : List DirectiveForm)
    : resolveFrom directive place (before ++ after)
      = resolveFrom directive (place + before.length) after := by
  induction before generalizing place with
  | nil => rfl
  | cons form before ih =>
      obtain ⟨head, tail⟩ := List.forall_mem_cons.mp misses
      rw [List.cons_append, resolveFrom, head]
      refine (ih tail (place + 1)).trans ?_
      rw [List.length_cons, Nat.add_assoc, Nat.add_comm 1]

/-- The first form whose pattern occurs in a directive is the form of it. -/
theorem resolve?_eq_some {registry : DirectiveRegistry} {place : Nat} {form : DirectiveForm}
    {found : Pattern.Match} (stands : registry.forms[place]? = some form)
    (misses
      : ∀ earlier < place, ∀ form,
          registry.forms[earlier]? = some form → form.pattern.search directive = none)
    (hit : form.pattern.search directive = some found)
    : registry.resolve? directive = some ⟨place, form, found⟩ := by
  obtain ⟨inside, here⟩ := List.getElem?_eq_some_iff.mp stands
  have parts : registry.forms
      = registry.forms.take place ++ form :: registry.forms.drop (place + 1) := by
    rw [← here, ← List.drop_eq_getElem_cons, List.take_append_drop]
  have before : ∀ form ∈ registry.forms.take place, form.pattern.search directive = none := by
    intro form member
    obtain ⟨earlier, at_⟩ := List.mem_iff_getElem?.mp member
    rw [List.getElem?_take] at at_
    split at at_
    next below => exact misses earlier below form at_
    next => cases at_
  unfold resolve?
  rw [parts, resolveFrom_append before, resolveFrom, hit, Nat.zero_add,
    List.length_take_of_le (Nat.le_of_lt inside)]

theorem IsFirst.resolve? {registry : DirectiveRegistry} {place : Nat} {form : DirectiveForm}
    {found : Pattern.Match} (first : registry.IsFirst directive place form found)
    : registry.resolve? directive = some ⟨place, form, found⟩ :=
  resolve?_eq_some first.stands first.misses first.hit

/-- A form that is found is the first whose pattern occurs, by induction on the forms. -/
theorem isFirst_of_resolveFrom {forms : List DirectiveForm} {start : Nat} {resolved : Resolved}
    (resolves : resolveFrom directive start forms = some resolved)
    : ∃ place,
        resolved.place = start + place
        ∧ IsFirst ⟨forms⟩ directive place resolved.form resolved.found := by
  induction forms generalizing start with
  | nil => cases resolves
  | cons form rest ih =>
      rw [resolveFrom] at resolves
      cases hit : form.pattern.search directive with
      | some found =>
          rw [hit] at resolves
          cases resolves
          exact ⟨0, rfl, rfl, hit, fun _ below => absurd below (Nat.not_lt_zero _)⟩
      | none =>
          rw [hit] at resolves
          obtain ⟨place, at_, first⟩ := ih resolves
          refine ⟨place + 1, by omega, first.stands, first.hit, ?_⟩
          intro earlier below other stands
          cases earlier with
          | zero =>
              cases stands
              exact hit
          | succ earlier => exact first.misses earlier (by omega) other stands

theorem isFirst_of_resolve? {registry : DirectiveRegistry} {resolved : Resolved}
    (resolves : registry.resolve? directive = some resolved)
    : registry.IsFirst directive resolved.place resolved.form resolved.found := by
  obtain ⟨place, at_, first⟩ := isFirst_of_resolveFrom resolves
  rw [Nat.zero_add] at at_
  exact at_ ▸ first

/-- No form is found only if no pattern occurs, by induction on the forms. -/
theorem misses_of_resolveFrom {forms : List DirectiveForm} {start : Nat}
    (unresolved : resolveFrom directive start forms = none)
    : ∀ form ∈ forms, form.pattern.search directive = none := by
  induction forms generalizing start with
  | nil => simp
  | cons form rest ih =>
      rw [resolveFrom] at unresolved
      cases hit : form.pattern.search directive with
      | some found =>
          rw [hit] at unresolved
          cases unresolved
      | none =>
          rw [hit] at unresolved
          exact List.forall_mem_cons.mpr ⟨hit, ih unresolved⟩

/-- A directive in which the pattern of a form occurs is of that form or of one ahead of it. -/
theorem exists_resolved_of_hit {registry : DirectiveRegistry} {place : Nat} {form : DirectiveForm}
    {found : Pattern.Match} (stands : registry.forms[place]? = some form)
    (hit : form.pattern.search directive = some found)
    : ∃ resolved, registry.resolve? directive = some resolved ∧ resolved.place ≤ place := by
  cases resolves : registry.resolve? directive with
  | none =>
      have missed := misses_of_resolveFrom resolves form (List.mem_of_getElem? stands)
      cases hit.symm.trans missed
  | some resolved =>
      refine ⟨resolved, rfl, Nat.le_of_not_lt fun later => ?_⟩
      have missed := (isFirst_of_resolve? resolves).misses place later form stands
      cases hit.symm.trans missed

/-- Forms that are added after the form of a directive do not matter to it. -/
theorem IsFirst.append {registry : DirectiveRegistry} {place : Nat} {form : DirectiveForm}
    {found : Pattern.Match} (first : registry.IsFirst directive place form found)
    (more : List DirectiveForm)
    : IsFirst ⟨registry.forms ++ more⟩ directive place form found := by
  obtain ⟨inside, _⟩ := List.getElem?_eq_some_iff.mp first.stands
  refine ⟨(List.getElem?_append_left inside).trans first.stands, first.hit, ?_⟩
  intro earlier below other stands
  rw [List.getElem?_append_left (Nat.lt_trans below inside)] at stands
  exact first.misses earlier below other stands

/-- What becomes of a directive depends on the registry through its form only. -/
theorem dispatch_congr {registry other : DirectiveRegistry}
    (same : registry.resolve? directive = other.resolve? directive) (scope : Scope)
    (session : Browser.Session)
    : registry.dispatch scope directive session = other.dispatch scope directive session := by
  unfold dispatch
  rw [same]

/-- The handler of the form of a directive is called with the arguments of the directive. -/
theorem dispatch_eq {registry : DirectiveRegistry} {resolved : Resolved} {scope : Scope}
    {args : Args} (resolves : registry.resolve? directive = some resolved)
    (given : resolved.args scope = .ok args) (session : Browser.Session)
    : registry.dispatch scope directive session
      = let (ending, next) := (resolved.form.handler args).on session
        ({ result := { name := directive, error := resolved.form.judge ending }
           call := some ⟨resolved.place, args⟩ }, next) := by
  unfold dispatch
  simp only [resolves, given]

end Rehearsal.DirectiveRegistry
