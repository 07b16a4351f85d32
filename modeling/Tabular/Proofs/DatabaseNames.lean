import Tabular.Database
import Tabular.Proofs.Occurrences
import Tabular.Proofs.Results
import Tabular.Proofs.Utf8Reading

/-!
# The names of databases

A database has the name of its file, and none in memory. The name is made of the words of the
address, and the place is found by reading them. So the name is right exactly where
the words tell of the place that is read.
-/

set_option autoImplicit false

namespace Tabular

namespace Address

open Text

def bare (url : String) : List Char :=
  match after? "sqlite://".toList url.toList with
  | some rest => rest
  | none => (after? "sqlite:".toList url.toList).getD url.toList

def written (url : String) : List Char := (splitFirst '?' (bare url)).1

def asked (url : String) : List Char := (splitFirst '?' (bare url)).2.getD []

def Mentions (url : String) : Prop := "mode=memory".toList <:+: url.toList

theorem contains_mode (url : String) :
    contains "mode=memory".toList url.toList = true ↔ Mentions url :=
  contains_iff (List.cons_ne_nil _ _)

theorem name?_eq_some {url stem : String} :
    name? url = some stem ↔ written url ≠ ":memory:".toList ∧ ¬Mentions url ∧
      Path.stem? (.ofList (written url)) = some stem := by
  have hname : name? url =
      if written url = [] ∨ written url = ":memory:".toList ∨
        contains "mode=memory".toList url.toList then none
      else Path.stem? (.ofList (written url)) := rfl
  rw [hname]
  split
  · next h =>
    refine iff_of_false nofun fun ⟨hpath, hmentions, hstem⟩ => ?_
    rcases h with h | h | h
    · rw [h] at hstem
      cases hstem
    · exact hpath h
    · exact hmentions ((contains_mode url).1 h)
  · next h =>
    rw [not_or, not_or] at h
    obtain ⟨-, hpath, hmentions⟩ := h
    rw [contains_mode] at hmentions
    simp only [ne_eq, hpath, hmentions, not_false_eq_true, true_and]

theorem name?_eq_none {url : String} :
    name? url = none ↔ written url = ":memory:".toList ∨ Mentions url ∨
      Path.stem? (.ofList (written url)) = none := by
  constructor
  · intro hnone
    by_contra h
    rw [not_or, not_or] at h
    obtain ⟨hpath, hmentions, hstem⟩ := h
    obtain ⟨stem, hstem⟩ := Option.ne_none_iff_exists'.1 hstem
    cases hnone.symm.trans (name?_eq_some.2 ⟨hpath, hmentions, hstem⟩)
  · intro h
    rw [Option.eq_none_iff_forall_ne_some]
    intro stem hsome
    obtain ⟨hpath, hmentions, hstem⟩ := name?_eq_some.1 hsome
    rcases h with h | h | h
    · exact hpath h
    · exact hmentions h
    · cases h.symm.trans hstem

def reading (url : String) : List Char × Option (List Char) :=
  splitFirst '?' (withoutAll "sqlite:".toList url.toList.length
    (withoutAll "sqlite://".toList url.toList.length url.toList))

def pathOf (database : List Char) : Except AddressFault (List Char) :=
  if database = ":memory:".toList then .ok database else decodedPath database

def parametersOf (query : Option (List Char)) : List (String × String) :=
  match query with
  | some q => parameters q
  | none => []

theorem target_ok {url : String} {t : Target} (h : target url = .ok t) :
    ∃ path options, pathOf (reading url).1 = .ok path ∧
      applyParameters .plain (parametersOf (reading url).2) = .ok options ∧
      t.place = if options.memory then .memory else placeOf (filePath path) := by
  unfold target at h
  dsimp only at h
  have hlast {path : List Char} (h : (do
      let options ← applyParameters .plain (parametersOf (reading url).2)
      if path.contains '\x00' then Except.error AddressFault.nulInPath
        else .ok ⟨if options.memory then .memory else placeOf (filePath path),
          options.readOnly || options.immutable, options.system⟩ : Except AddressFault Target) =
        .ok t) : ∃ options, applyParameters .plain (parametersOf (reading url).2) = .ok options ∧
          t.place = if options.memory then .memory else placeOf (filePath path) := by
    obtain ⟨options, hoptions, h⟩ := bind_eq_ok.1 h
    split at h
    · cases h
    · obtain rfl := Except.ok.inj h
      exact ⟨options, hoptions, rfl⟩
  split at h
  · next hmemory =>
    obtain ⟨path, hpath, h⟩ := bind_eq_ok.1 h
    obtain ⟨options, hoptions⟩ := hlast h
    exact ⟨path, options, (if_pos hmemory).trans hpath, hoptions⟩
  · next hmemory =>
    obtain ⟨path, hpath, h⟩ := bind_eq_ok.1 h
    obtain ⟨options, hoptions⟩ := hlast h
    exact ⟨path, options, (if_neg hmemory).trans hpath, hoptions⟩

theorem withoutAll_of_not {lead s : List Char} (h : ¬lead <+: s) (n : Nat) :
    withoutAll lead n s = s := by
  cases n with
  | zero => rfl
  | succ n => rw [withoutAll, after?_eq_none.2 h]

theorem withoutAll_once {lead s : List Char} (h : ¬lead <+: s) (n : Nat) :
    withoutAll lead (n + 1) (lead ++ s) = s := by
  rw [withoutAll, after?_eq_some.2 rfl]
  exact withoutAll_of_not h n

/-- An address with one scheme is read as it is written. -/
theorem reading_eq {url : String} (hscheme : "sqlite:".toList <+: url.toList)
    (honce : ¬"sqlite:".toList <+: bare url) : reading url = splitFirst '?' (bare url) := by
  have hshort : "sqlite:".toList <+: "sqlite://".toList := ⟨"//".toList, rfl⟩
  obtain ⟨n, hn⟩ : ∃ n, url.toList.length = n + 1 := by
    obtain ⟨rest, hrest⟩ := hscheme
    exact ⟨6 + rest.length, by rw [← hrest, List.length_append]; simp; omega⟩
  rw [reading, hn]
  congr 1
  cases hlong : after? "sqlite://".toList url.toList with
  | some rest =>
    have hbare : bare url = rest := by rw [bare, hlong]
    rw [hbare] at honce ⊢
    rw [after?_eq_some.1 hlong, withoutAll_once (fun h => honce (hshort.trans h)),
      withoutAll_of_not honce]
  | none =>
    obtain ⟨rest, hrest⟩ := hscheme
    have hbare : bare url = rest := by
      rw [bare, hlong, after?_eq_some.2 hrest.symm]
      rfl
    rw [hbare] at honce ⊢
    rw [withoutAll_of_not (after?_eq_none.1 hlong), ← hrest, withoutAll_once honce]

theorem applyParameter_memory {o o' : Options} {p : String × String}
    (h : applyParameter o p = .ok o') :
    o'.memory = true ↔ o.memory = true ∨ p = ("mode", "memory") := by
  unfold applyParameter at h
  split at h
  · split at h
    · obtain rfl := Except.ok.inj h
      simp
    · obtain rfl := Except.ok.inj h
      simp
    · obtain rfl := Except.ok.inj h
      simp
    · obtain rfl := Except.ok.inj h
      simp
    · cases h
  · split at h
    · obtain rfl := Except.ok.inj h
      simp
    · cases h
  · split at h
    · obtain rfl := Except.ok.inj h
      simp
    · split at h
      · obtain rfl := Except.ok.inj h
        simp
      · cases h
  · obtain rfl := Except.ok.inj h
    simp
  · cases h

/-- The parameters ask for a database in memory if one of them does. -/
theorem applyParameters_memory {o o' : Options} {ps : List (String × String)}
    (h : applyParameters o ps = .ok o') :
    o'.memory = true ↔ o.memory = true ∨ ("mode", "memory") ∈ ps := by
  induction ps generalizing o with
  | nil =>
    obtain rfl := Except.ok.inj h
    simp
  | cons p ps ih =>
    obtain ⟨next, hnext, h⟩ := bind_eq_ok.1 h
    rw [ih h, applyParameter_memory hnext, List.mem_cons, or_assoc, eq_comm (a := p)]

theorem percentDecoded_of_not_mem {s : List Char} (h : '%' ∉ s) :
    percentDecoded s = Utf8.encode (.ofList s) := by
  rw [Utf8.encode_ofList]
  induction s with
  | nil => rfl
  | cons c s ih =>
    obtain ⟨hc, hs⟩ := List.ne_and_not_mem_of_not_mem_cons h
    have hone : Utf8.encode (.ofList [c]) = String.utf8EncodeChar c := by
      rw [Utf8.encode_ofList, List.flatMap_singleton]
    rw [percentDecoded.eq_def]
    split
    · next heq => cases heq
    · next heq =>
      rw [List.cons.injEq] at heq
      exact absurd heq.1.symm hc
    · next heq =>
      obtain ⟨rfl, rfl⟩ := List.cons.inj heq
      rw [ih hs, hone, List.flatMap_cons]

theorem decodedPath_of_not_mem {path : List Char} (h : '%' ∉ path) :
    decodedPath path = .ok path := by
  rw [decodedPath, percentDecoded_of_not_mem h, Utf8.decode_encode]
  simp

theorem parameterText_of_not_mem {s : List Char} (h : '%' ∉ s) :
    parameterText s = .ofList (s.map fun c => if c = '+' then ' ' else c) := by
  rw [parameterText, percentDecoded_of_not_mem, Utf8.decodeLossy_encode]
  simp only [List.mem_map, not_exists, not_and]
  intro c hc hplus
  split at hplus
  · cases hplus
  · exact h (hplus ▸ hc)

/-- A word without blanks that is read as a parameter is written as it is. -/
theorem eq_of_parameterText {s : List Char} (h : '%' ∉ s) {word : String}
    (hblank : ' ' ∉ word.toList) (hword : parameterText s = word) : s = word.toList := by
  rw [parameterText_of_not_mem h] at hword
  rw [← hword, String.toList_ofList] at hblank ⊢
  have hsame : ∀ c ∈ s, (if c = '+' then ' ' else c) = c := by
    intro c hc
    by_cases hplus : c = '+'
    · have hmem : ' ' ∈ s.map fun c => if c = '+' then ' ' else c :=
        List.mem_map.2 ⟨c, hc, if_pos hplus⟩
      exact absurd hmem hblank
    · exact if_neg hplus
  exact ((List.map_congr_left hsame).trans (List.map_id s)).symm

theorem splitFirst_cases (c : Char) (s : List Char) :
    splitFirst c s = (s, none) ∨
      ∃ front back, s = front ++ c :: back ∧ splitFirst c s = (front, some back) := by
  rw [splitFirst]
  split
  · next front back hcut =>
    have hs := ((cut?_eq_some (List.cons_ne_nil _ _)).1 hcut).1
    exact .inr ⟨front, back, by simpa using hs, rfl⟩
  · exact .inl rfl

theorem bare_suffix (url : String) : bare url <:+ url.toList := by
  rw [bare]
  split
  · next rest hrest => exact ⟨_, (after?_eq_some.1 hrest).symm⟩
  · cases hrest : after? "sqlite:".toList url.toList with
    | none => exact List.suffix_refl _
    | some rest => exact ⟨_, (after?_eq_some.1 hrest).symm⟩

theorem written_leads (url : String) : written url <+: bare url := by
  rw [written]
  rcases splitFirst_cases '?' (bare url) with h | ⟨front, back, hbare, h⟩
  · rw [h]
  · rw [h]
    exact ⟨_, hbare.symm⟩

theorem written_within (url : String) : written url <:+: url.toList :=
  (written_leads url).isInfix.trans (bare_suffix url).isInfix

theorem asked_within (url : String) : asked url <:+: url.toList := by
  have hsuffix : asked url <:+ bare url := by
    rw [asked]
    rcases splitFirst_cases '?' (bare url) with h | ⟨front, back, hbare, h⟩
    · rw [h]
      exact List.nil_suffix
    · rw [h, hbare]
      exact (List.suffix_cons _ _).trans (List.suffix_append _ _)
  exact (hsuffix.trans (bare_suffix url)).isInfix

/-- A database in memory is asked for by a parameter of its own. -/
theorem mem_parameters {q : List Char} (h : '%' ∉ q) :
    ("mode", "memory") ∈ parameters q ↔ "mode=memory".toList ∈ splitAll '&' q := by
  rw [parameters, List.mem_map]
  constructor
  · rintro ⟨p, hp, heq⟩
    have hpart := (List.mem_filter.1 hp).1
    have hplain : '%' ∉ p := fun hmem => h ((infix_of_mem_splitAll hpart).subset hmem)
    rcases splitFirst_cases '=' p with hsplit | ⟨name, value, rfl, hsplit⟩
    · rw [hsplit] at heq
      cases eq_of_parameterText List.not_mem_nil (by decide) (Prod.mk.inj heq).2
    · rw [hsplit] at heq
      obtain ⟨hname, hvalue⟩ := Prod.mk.inj heq
      simp only [List.mem_append, List.mem_cons, not_or] at hplain
      have hmode := eq_of_parameterText hplain.1 (by decide) hname
      have hmemory := eq_of_parameterText hplain.2.2 (by decide) hvalue
      rw [hmode, hmemory] at hpart
      exact hpart
  · intro hpart
    refine ⟨_, List.mem_filter.2 ⟨hpart, by decide⟩, ?_⟩
    decide +kernel

theorem parametersOf_eq (query : Option (List Char)) :
    parametersOf query = parameters (query.getD []) := by
  cases query <;> rfl

structure Named (name : Option String) (place : Place) : Prop where
  none_iff : name = none ↔ place = .memory
  stem : ∀ path, place = .file path → name = Path.stem? path

/-- The words of an address tell of the place it leads to: of memory by `:memory:`, by the words
for it or by no name at all, and of a file by a name that is that of its path. -/
inductive Tells (url : String) : Place → Prop
  | memory (h : written url = ":memory:".toList ∨ Mentions url ∨
      Path.stem? (.ofList (written url)) = none) : Tells url .memory
  | file {path stem : String} (unmentioned : ¬Mentions url)
      (named : Path.stem? (.ofList (written url)) = some stem)
      (opened : Path.stem? path = some stem) : Tells url (.file path)

section

variable {url : String} {t : Target}

theorem place_of_memory (hscheme : "sqlite:".toList <+: url.toList) (h : target url = .ok t)
    (hw : written url = ":memory:".toList) : t.place = .memory := by
  have honce : ¬"sqlite:".toList <+: bare url := by
    intro hagain
    have hprefix : ":memory:".toList <+: bare url := hw ▸ written_leads url
    have hboth := List.prefix_of_prefix_length_le hagain hprefix (by decide)
    exact absurd hboth (by decide)
  obtain ⟨path, options, hpath, -, hplace⟩ := target_ok h
  rw [reading_eq hscheme honce] at hpath
  have hmemory : path = ":memory:".toList := by
    change pathOf (written url) = .ok path at hpath
    rw [pathOf, if_pos hw] at hpath
    exact (Except.ok.inj hpath).symm.trans hw
  rw [hplace, hmemory]
  split
  · rfl
  · rfl

/-- The name is right exactly where the words tell of the place. -/
theorem named_iff (hscheme : "sqlite:".toList <+: url.toList) (h : target url = .ok t) :
    Named (name? url) t.place ↔ Tells url t.place := by
  have hmemory := place_of_memory hscheme h
  cases hplace : t.place with
  | memory =>
    constructor
    · intro hnamed
      exact .memory (name?_eq_none.1 (hnamed.none_iff.2 rfl))
    · rintro ⟨htells⟩
      exact ⟨iff_of_true (name?_eq_none.2 htells) rfl, nofun⟩
  | file path =>
    rw [hplace] at hmemory
    constructor
    · intro hnamed
      have hsome : name? url ≠ none := fun hnone => nomatch hnamed.none_iff.1 hnone
      obtain ⟨stem, hstem⟩ := Option.ne_none_iff_exists'.1 hsome
      obtain ⟨-, hmentions, hwritten⟩ := name?_eq_some.1 hstem
      exact .file hmentions hwritten ((hnamed.stem path rfl).symm.trans hstem)
    · rintro (_ | ⟨hmentions, hwritten, hopened⟩)
      have hpath : written url ≠ ":memory:".toList := fun hw => nomatch hmemory hw
      have hname := name?_eq_some.2 ⟨hpath, hmentions, hwritten⟩
      refine ⟨?_, ?_⟩
      · rw [hname]
        exact iff_of_false nofun nofun
      · rintro _ ⟨⟩
        exact hname.trans hopened.symm

structure Plain (url : String) : Prop where
  once : ¬"sqlite:".toList <+: bare url
  literal : '%' ∉ url.toList
  direct : ¬"file:".toList <+: written url
  named : written url = ":memory:".toList ∨ Path.stem? (.ofList (written url)) ≠ none
  parameter : Mentions url → "mode=memory".toList ∈ splitAll '&' (asked url)

theorem Plain.mentions_iff (h : Plain url) :
    Mentions url ↔ ("mode", "memory") ∈ parameters (asked url) := by
  have hliteral : '%' ∉ asked url := fun hmem => h.literal ((asked_within url).subset hmem)
  rw [mem_parameters hliteral]
  constructor
  · exact h.parameter
  · intro hpart
    exact (infix_of_mem_splitAll hpart).trans (asked_within url)

/-- An address that means what is written tells of its place. -/
theorem Plain.tells (h : Plain url) (hscheme : "sqlite:".toList <+: url.toList)
    (ht : target url = .ok t) : Tells url t.place := by
  obtain ⟨path, options, hpath, hoptions, hplace⟩ := target_ok ht
  rw [reading_eq hscheme h.once] at hpath hoptions
  have hwritten : path = written url := by
    have hliteral : '%' ∉ written url := fun hmem => h.literal ((written_within url).subset hmem)
    rw [pathOf] at hpath
    split at hpath
    · exact (Except.ok.inj hpath).symm
    · exact Except.ok.inj (hpath.symm.trans (decodedPath_of_not_mem hliteral))
  have hfile : filePath path = path := by
    rw [hwritten, filePath, after?_eq_none.2 h.direct]
  have hmentions : options.memory = true ↔ Mentions url := by
    rw [parametersOf_eq] at hoptions
    rw [applyParameters_memory hoptions, h.mentions_iff]
    exact or_iff_right Bool.false_ne_true
  rw [hplace, hfile, hwritten]
  by_cases hm : Mentions url
  · rw [if_pos (hmentions.2 hm)]
    exact .memory (.inr (.inl hm))
  · rw [if_neg (mt hmentions.1 hm), placeOf]
    split
    · next hnone =>
      refine .memory (hnone.elim (fun hnil => ?_) .inl)
      rw [hnil]
      exact .inr (.inr rfl)
    · next hsome =>
      obtain ⟨-, hpath⟩ := not_or.1 hsome
      obtain ⟨stem, hstem⟩ := Option.ne_none_iff_exists'.1 (h.named.resolve_left hpath)
      exact .file hm hstem hstem

end

theorem withScheme_scheme (url : String) : "sqlite:".toList <+: (withScheme url).toList := by
  rw [withScheme]
  split
  · next h =>
    obtain ⟨rest, hrest⟩ := Option.isSome_iff_exists.1 h
    rw [String.toList_ofList (l := trim url.toList), after?_eq_some.1 hrest]
    exact List.prefix_append _ _
  · rw [String.toList_append]
    exact List.prefix_append _ _

end Address

namespace Database

def Opens (disk : Disk) (d : Database) : Address.Place → Prop
  | .memory => d.file = none
  | .file path => d.file = some (disk.placeByText path)

variable {disk disk' : Disk} {settings : Config.Settings} {d : Database}

theorem openFile_place {path : String} {readOnly : Bool} {place : Files.Place} {c : Sql.Connection}
    (h : openFile disk path readOnly = .ok (place, c, disk')) : place = disk.placeByText path := by
  unfold openFile at h
  dsimp only at h
  split at h
  · cases h
  split at h
  · cases h
  · exact (Prod.mk.inj (Except.ok.inj h)).1.symm
  · exact (Prod.mk.inj (Except.ok.inj h)).1.symm
  · split at h
    · cases h
    · exact (Prod.mk.inj (Except.ok.inj h)).1.symm

theorem connect_ok (h : connect disk settings = .ok (d, disk')) :
    ∃ t, Address.target (Address.withScheme settings.url) = .ok t ∧
      d.name = Address.name? (Address.withScheme settings.url) ∧ Opens disk d t.place := by
  rw [connect] at h
  split at h
  · cases h
  · obtain ⟨t, htarget, h⟩ := bind_eq_ok.1 h
    refine ⟨t, mapError_eq_ok.1 htarget, ?_⟩
    split at h
    · cases h
    · next hplace =>
      obtain ⟨rfl, -⟩ := Prod.mk.inj (Except.ok.inj h)
      rw [hplace, Opens]
      dsimp only
      exact ⟨rfl, rfl⟩
    · next path _ hplace =>
      obtain ⟨⟨place, c, after⟩, hopened, h⟩ := bind_eq_ok.1 h
      obtain ⟨rfl, -⟩ := Prod.mk.inj (Except.ok.inj h)
      have hplaced := openFile_place hopened
      rw [hplace, Opens, hplaced]
      dsimp only
      exact ⟨rfl, rfl⟩

/-- The name of a database that is opened is right, so that it has none in memory and else the
name of its file, exactly where the words of the address tell of its place, and so they do
if they mean what is written. -/
theorem name_right_iff (h : connect disk settings = .ok (d, disk')) :
    let url := Address.withScheme settings.url
    ∃ t, Address.target url = .ok t ∧ Opens disk d t.place ∧
      (Address.Named d.name t.place ↔ Address.Tells url t.place) ∧
      (Address.Plain url → Address.Named d.name t.place) := by
  intro url
  obtain ⟨t, ht, hname, hopens⟩ := connect_ok h
  have hscheme := Address.withScheme_scheme settings.url
  have hiff := Address.named_iff hscheme ht
  rw [← hname] at hiff
  exact ⟨t, ht, hopens, hiff, fun hplain => hiff.2 (hplain.tells hscheme ht)⟩

def emptyDisk : Disk := ⟨"", [], []⟩

def addressed (url : String) : Config.Settings := { Config.Settings.standard with url }

theorem name_right_iff_shop :
    ∃ d disk', connect emptyDisk (addressed " my.shop.db?mode=rwc") = .ok (d, disk') ∧
      d.file = some ["my.shop.db"] ∧ d.name = some "my.shop" := by
  have hok : (connect emptyDisk (addressed " my.shop.db?mode=rwc")).toOption.isSome = true := by
    decide +kernel
  cases hconnect : connect emptyDisk (addressed " my.shop.db?mode=rwc") with
  | error e =>
    rw [hconnect] at hok
    cases hok
  | ok opened =>
    obtain ⟨t, ht, hopens, -, hplain⟩ := name_right_iff hconnect
    have hread : Address.target (Address.withScheme (addressed " my.shop.db?mode=rwc").url) =
        .ok ⟨.file "my.shop.db", false, none⟩ := by decide +kernel
    obtain rfl := Except.ok.inj (hread.symm.trans ht)
    have hname := hplain ⟨by decide +kernel, by decide +kernel, by decide +kernel,
      .inr (by decide +kernel), fun h => absurd h (by unfold Address.Mentions; decide +kernel)⟩
    refine ⟨opened.1, opened.2, rfl, ?_, ?_⟩
    · exact hopens.trans (by decide +kernel)
    · exact (hname.stem "my.shop.db" rfl).trans (by decide +kernel)

/-- A file whose name has the words for memory in it, and a database without a name. -/
theorem unnamed_file :
    ∃ d disk', connect emptyDisk (addressed "mode=memory.db") = .ok (d, disk') ∧
      d.file = some ["mode=memory.db"] ∧ d.name = none ∧
      Path.stem? "mode=memory.db" = some "mode=memory" := by
  have hok : (connect emptyDisk (addressed "mode=memory.db")).toOption.isSome = true := by
    decide +kernel
  cases hconnect : connect emptyDisk (addressed "mode=memory.db") with
  | error e =>
    rw [hconnect] at hok
    cases hok
  | ok opened =>
    obtain ⟨t, ht, hname, hopens⟩ := connect_ok hconnect
    have hread : Address.target (Address.withScheme (addressed "mode=memory.db").url) =
        .ok ⟨.file "mode=memory.db", false, none⟩ := by decide +kernel
    obtain rfl := Except.ok.inj (hread.symm.trans ht)
    refine ⟨opened.1, opened.2, rfl, ?_, ?_, ?_⟩
    · exact hopens.trans (by decide +kernel)
    · exact hname.trans (by decide +kernel)
    · decide +kernel

end Database
end Tabular
