import Tabular.CommandLine.Reading
import Tabular.Proofs.Results

/-!
# Options before variables

A command line gives its settings by options; a variable stands in for an option that is
not given. So the settings of an invocation are those that the arguments give without any
variables, and where they give none, the values of the variables.
-/

set_option autoImplicit false

namespace Tabular.CommandLine

def Judged (known : List Argument) (given : List (String × Value)) : Prop :=
  ∀ g ∈ given, ∃ a ∈ known, a.label = g.1 ∧ ∃ s, a.read s = .ok g.2

theorem judged_nil (known : List Argument) : Judged known [] := by
  intro g h
  cases h

theorem Judged.append {known : List Argument} {given others : List (String × Value)}
    (h : Judged known given) (h' : Judged known others) : Judged known (given ++ others) :=
  List.forall_mem_append.2 ⟨h, h'⟩

namespace Progress

variable {known : List Argument} {a : Argument} {p q : Progress}

theorem judged_readAll {values : List String} {vs : List (String × Value)} (ha : a ∈ known)
    (h : readAll a values = .ok vs) : Judged known vs := by
  induction values generalizing vs with
  | nil =>
    obtain rfl := Except.ok.inj h
    exact judged_nil known
  | cons s rest ih =>
    obtain ⟨v, hv, h⟩ := bind_eq_ok.1 h
    obtain ⟨others, hothers, h⟩ := bind_eq_ok.1 h
    obtain rfl := Except.ok.inj h
    exact List.forall_mem_cons.2 ⟨⟨a, ha, rfl, s, hv⟩, ih hothers⟩

structure Sound (known : List Argument) (p : Progress) : Prop where
  given : Judged known p.given
  pending : ∀ a values, p.pending = some (a, values) → a ∈ known
  toCome : ∀ a ∈ p.toCome, a ∈ known

theorem Sound.take (hp : Sound known p) {values : List String} (ha : a ∈ known)
    (h : p.take a values = .ok q) : Sound known q := by
  rw [Progress.take] at h
  split at h
  · cases h
  split at h
  · cases h
  obtain ⟨vs, hvs, rfl⟩ := map_eq_ok.1 h
  exact ⟨hp.given.append (judged_readAll ha hvs), hp.pending, hp.toCome⟩

theorem Sound.resolve (hp : Sound known p) (h : p.resolve = .ok q) : Sound known q := by
  rw [Progress.resolve] at h
  split at h
  · obtain rfl := Except.ok.inj h
    exact hp
  · rename_i a values hpending
    have hcleared : Sound known { p with pending := none } := ⟨hp.given, nofun, hp.toCome⟩
    exact hcleared.take (hp.pending a values hpending) h

theorem Sound.await (hp : Sound known p) (ha : a ∈ known) (values : List String) :
    Sound known { p with pending := some (a, values) } := by
  refine ⟨hp.given, ?_, hp.toCome⟩
  intro b others hb
  obtain ⟨rfl, -⟩ := Prod.mk.inj (Option.some.inj hb)
  exact ha

theorem Sound.takeOption (hp : Sound known p) (ha : a ∈ known) {attached : Option String}
    (h : p.takeOption a attached = .ok q) : Sound known q := by
  obtain ⟨p', hp', h⟩ := bind_eq_ok.1 h
  have hresolved := hp.resolve hp'
  cases attached with
  | some value => exact hresolved.take ha h
  | none =>
    obtain rfl := Except.ok.inj h
    exact hresolved.await ha []

end Progress

open Progress

section

variable {known : List Argument} {level : Level} {p q : Progress}

theorem bind_error_ne {p : Progress} {e : CommandFault} :
    (p.resolve.bind fun _ => (.error e : Except CommandFault Progress)) ≠ .ok q := by
  cases p.resolve <;> nofun

theorem longOption_ok {s : List Char} (h : longOption level p s = .ok q) :
    ∃ a ∈ level.options, ∃ attached, p.takeOption a attached = .ok q := by
  unfold longOption at h
  split at h
  rename_i name value _
  split at h
  · rename_i a ha
    exact ⟨a, List.mem_of_find?_eq_some ha, value, h⟩
  split at h
  · split at h
    · cases h
    · exact absurd h bind_error_ne
  · cases h

theorem shortOption_ok {c : Char} {rest : List Char} (h : shortOption level p c rest = .ok q) :
    ∃ a ∈ level.options, ∃ attached, p.takeOption a attached = .ok q := by
  unfold shortOption at h
  split at h
  · rename_i a ha
    exact ⟨a, List.mem_of_find?_eq_some ha, _, h⟩
  split at h
  · exact absurd h bind_error_ne
  split at h
  · exact absurd h bind_error_ne
  · cases h

theorem Progress.Sound.placed (hp : Sound known p) {s : String} (h : placed p s = .ok q) :
    Sound known q := by
  rw [CommandLine.placed] at h
  split at h
  · cases h
  rename_i a rest hcome
  have ha : a ∈ known := hp.toCome a (by simp [hcome])
  have hrest : ∀ b ∈ (if a.many then a :: rest else rest), b ∈ known := by
    intro b hb
    refine hp.toCome b ?_
    rw [hcome]
    split at hb
    · exact hb
    · exact List.mem_cons_of_mem a hb
  split at h
  · rename_i b values hpending
    split at h
    · obtain rfl := Except.ok.inj h
      exact hp.await (hp.pending b values hpending) _
    · obtain ⟨p', hp', rfl⟩ := map_eq_ok.1 h
      have hresolved := hp.resolve hp'
      exact ⟨hresolved.given, (hresolved.await ha [s]).pending, hrest⟩
  · obtain rfl := Except.ok.inj h
    exact ⟨hp.given, (hp.await ha [s]).pending, hrest⟩

theorem Progress.Sound.step (hl : ∀ a ∈ level.options, a ∈ known) (hp : Sound known p)
    {s : String} (h : step level p s = .ok q) : Sound known q := by
  rw [CommandLine.step] at h
  split at h
  · exact hp.placed h
  split at h
  · obtain rfl := Except.ok.inj h
    exact ⟨hp.given, hp.pending, hp.toCome⟩
  · obtain ⟨a, ha, attached, h⟩ := longOption_ok h
    exact hp.takeOption (hl a ha) h
  · obtain ⟨a, ha, attached, h⟩ := shortOption_ok h
    exact hp.takeOption (hl a ha) h
  · split at h
    · rename_i a hpending
      obtain rfl := Except.ok.inj h
      exact hp.await (hp.pending a [] hpending) [s]
    · exact hp.placed h

/-- All values that a level reads belong to its arguments. -/
theorem Progress.Sound.steps (hl : ∀ a ∈ level.options, a ∈ known) (hp : Sound known p)
    {args : List String} (h : steps level p args = .ok q) : Sound known q := by
  induction args generalizing p with
  | nil => exact hp.resolve h
  | cons s rest ih =>
    obtain ⟨p', hstep, h⟩ := bind_eq_ok.1 h
    exact ih (hp.step hl hstep) h

end

def Value.text? : Value → Option String
  | .text s => some s
  | _ => none

def Value.whole? : Value → Option Int
  | .whole i => some i
  | _ => none

def Value.truth? : Value → Option Bool
  | .truth b => some b
  | _ => none

section

variable {α : Type} {cast : Value → Option α} {known : List Argument}
  {given others : List (String × Value)} {label : String}

def valueIn (cast : Value → Option α) (a : Argument) (vars : Variables) (name : String) :
    Option α :=
  (lookup? vars name).bind fun s => (a.read s).toOption.bind cast

variable {vars : Variables} {p : Progress} {options : List (Argument × String)}

end

def Form.arguments (f : Form) : List Argument := f.options ++ settingOptions ++ f.places

end Tabular.CommandLine
