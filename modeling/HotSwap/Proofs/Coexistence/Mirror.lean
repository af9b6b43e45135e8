/-
# HotSwap.Proofs.Coexistence.Mirror -- one process in two worlds

A process that runs among others mirrors itself running alone if it is in the same state up to
names (`SameHost`) and its part of the larger world is the smaller one (`SameWorld`).  Asked the
same question, up to names, both answer the same and mirror each other behind it, and what the
step did to the larger world is the process's own business (`SameScene.answer`).
-/
import HotSwap.Proofs.Coexistence.Likeness
import HotSwap.Proofs.Playing
import HotSwap.Proofs.Simulated.Share

namespace HotSwap

set_option autoImplicit false

open Procedure Session

variable {x y : Tenant} {ν ν' : Names}

/-! ## Worlds -/

/-- A process's part of a larger world is the world it has alone. -/
structure SameWorld (x : Tenant) (ν : Names) (u w : World) : Prop where
  files : SameFiles x u.files w.files
  links : SameCells ν.links u.links w.links
  registries : SameCells ν.registries u.registries w.registries
  parked : SameParked x ν u.parked w.parked
  exchanges : SameExchanges x.exchanges ν u.exchanges w.exchanges

/-- What a step of a process may do to the larger world. -/
structure Touches (x : Tenant) (ν ν' : Names) (w w' : World) : Prop where
  files : w'.files = w.files ∨
    ∃ dir payload, x.dirs dir ∧ Depot.Adds w.files dir payload w'.files
  links : TouchesCells ν.links ν'.links w.links w'.links
  registries : TouchesCells ν.registries ν'.registries w.registries w'.registries
  parked : TouchesParked x.pid ν.tokens ν'.tokens w.parked w'.parked
  exchanges : ∀ exchange, ¬ x.exchanges exchange → w'.exchanges[exchange]? = w.exchanges[exchange]?

/-- Relative paths begin where they did. -/
theorem Touches.home {w w' : World} (touches : Touches x ν ν' w w') :
    w'.files.home = w.files.home := by
  rcases touches.files with still | ⟨_, _, _, adds⟩
  · exact congrArg FileTree.home still
  · exact adds.grows.home

/-- Both worlds made a step, the larger one none but the process's. -/
structure Follows (x : Tenant) (ν ν' : Names) (w u' w' : World) : Prop where
  within : ν.Within ν'
  same : SameWorld x ν' u' w'
  touches : Touches x ν ν' w w'

namespace Names

/-- The names with one more connection. -/
def withLink (ν : Names) (link link' : LinkId) : Names :=
  { ν with links := ν.links ++ [(link, link')] }

/-- The names with one more registry. -/
def withRegistry (ν : Names) (registry registry' : Nat) : Names :=
  { ν with registries := ν.registries ++ [(registry, registry')] }

/-- The names with one more token. -/
def withToken (ν : Names) (token token' : Int) : Names :=
  { ν with tokens := ν.tokens ++ [(token, token')] }

theorem within_withLink (ν : Names) (link link' : LinkId) : ν.Within (ν.withLink link link') :=
  ⟨List.subset_append_left .., List.Subset.refl _, List.Subset.refl _, id⟩

theorem within_withRegistry (ν : Names) (registry registry' : Nat) :
    ν.Within (ν.withRegistry registry registry') :=
  ⟨List.Subset.refl _, List.subset_append_left .., List.Subset.refl _, id⟩

theorem within_withToken (ν : Names) (token token' : Int) : ν.Within (ν.withToken token token') :=
  ⟨List.Subset.refl _, List.Subset.refl _, List.subset_append_left .., id⟩

/-- Load hooks that mean the same. -/
inductive SameLoadHook (ν : Names) : LoadHook → LoadHook → Prop where
  | registry {id id' : Nat} (known : (id, id') ∈ ν.registries) :
      SameLoadHook ν (.registry id) (.registry id')
  | always (transform : Transform) : SameLoadHook ν (.always transform) (.always transform)

theorem SameLoadHook.mono {hook hook' : LoadHook} (same : ν.SameLoadHook hook hook')
    (within : ν.Within ν') : ν'.SameLoadHook hook hook' := by
  cases same with
  | registry known => exact .registry (within.registries known)
  | always transform => exact .always transform

/-- No number of the larger world has a name on both sides. -/
structure Apart (ν ν' : Names) : Prop where
  links : ApartNames ν.links ν'.links
  registries : ApartNames ν.registries ν'.registries
  tokens : ApartNames ν.tokens ν'.tokens

end Names

/-- Processes that have nothing in common in a file system: their numbers are different, none of
their directories is inside one of the other, and they have places of their own where
controllers dial in. -/
structure Tenant.Apart (x : Tenant) (files : FileTree) (y : Tenant) : Prop where
  pid : x.pid ≠ y.pid
  direct : ∀ dir, y.dirs dir → FileTree.Direct dir
  dirs : ∀ mine, x.dirs mine → ∀ dir, y.dirs dir → (files.spot mine).Apart (files.spot dir)
  exchanges : ∀ exchange, x.exchanges exchange → ¬ y.exchanges exchange

section Worlds

variable {u w : World} {i j : Nat}

theorem TouchesParked.refl {pid : UInt32} {t : Parked} (tokens : List (Int × Int))
    (sound : t.Sound) : TouchesParked pid tokens tokens t t :=
  ⟨le_refl _, sound, fun _ _ => rfl, fun _ => .inl, fun _ => .inl⟩

namespace SameWorld

/-- Nothing happens to the world. -/
theorem still (same : SameWorld x ν u w) : Follows x ν ν w u w where
  within := .refl ν
  same := same
  touches := ⟨.inl rfl, .refl .., .refl .., .refl _ same.parked.sound, fun _ _ => rfl⟩

/-- The same thing takes the place of a connection of the process. -/
theorem setLink (same : SameWorld x ν u w) (known : (i, j) ∈ ν.links) (link : Link) :
    Follows x ν ν w { u with links := u.links.setIfInBounds i link }
      { w with links := w.links.setIfInBounds j link } where
  within := .refl ν
  same := { same with links := same.links.set known link }
  touches := { same.still.touches with links := .set known link }

/-- A connection changes in the same way in both worlds. -/
theorem onLink {α : Type} (same : SameWorld x ν u w) (known : (i, j) ∈ ν.links) (absent : α)
    (change : Link → α × Link) :
    (w.onLink j absent change).1 = (u.onLink i absent change).1 ∧
      Follows x ν ν w (u.onLink i absent change).2 (w.onLink j absent change).2 := by
  obtain ⟨link, alone, both⟩ := same.links.cells (i, j) known
  simp only [World.onLink, alone, both]
  exact ⟨trivial, same.setLink known _⟩

theorem onLine {α : Type} (same : SameWorld x ν u w) (known : (i, j) ∈ ν.links) (absent : α)
    (change : FrameLine → α × FrameLine) :
    (w.onLine j absent change).1 = (u.onLine i absent change).1 ∧
      Follows x ν ν w (u.onLine i absent change).2 (w.onLine j absent change).2 :=
  same.onLink known absent _

/-- A connection is added to both worlds. -/
theorem addLink (same : SameWorld x ν u w) (link : Link) :
    Follows x ν (ν.withLink u.links.size w.links.size) w (u.addLink link).2
      (w.addLink link).2 where
  within := ν.within_withLink _ _
  same :=
    { files := same.files
      links := same.links.push link
      registries := same.registries
      parked := same.parked.mono (ν.within_withLink _ _) rfl
      exchanges := same.exchanges.mono (ν.within_withLink _ _) }
  touches := { same.still.touches with links := .push link }

/-- A controller dials in at a place of the process. -/
theorem dial (same : SameWorld x ν u w) {exchange : Nat} (own : x.exchanges exchange) :
    Follows x ν (ν.withLink u.links.size w.links.size) w (u.dial exchange).2
      (w.dial exchange).2 := by
  have added := same.addLink (.frames {})
  refine ⟨added.within, { added.same with exchanges := fun other mine => ?_ },
    { added.touches with exchanges := fun other foreign => ?_ }⟩
  · have waiting := added.same.exchanges other mine
    simp only [World.addLink] at waiting
    simp only [World.dial, World.addLink, Array.getElem?_modify]
    split
    · generalize u.exchanges[other]? = alone at waiting
      generalize w.exchanges[other]? = both at waiting
      cases waiting with
      | none => exact .none
      | some waiting =>
          refine .some (List.rel_append waiting (.cons ?_ .nil))
          exact List.mem_append_right _ (List.mem_singleton_self _)
    · exact waiting
  · have different : exchange ≠ other := fun same => foreign (same ▸ own)
    simp [World.dial, World.addLink, Array.getElem?_modify, different]

/-- An agent takes up the connection that was dialled first at a place of the process. -/
theorem pickUp (same : SameWorld x ν u w) {exchange : Nat} (own : x.exchanges exchange) :
    ν.Met (u.pickUp exchange).1 (w.pickUp exchange).1 ∧
      Follows x ν ν w (u.pickUp exchange).2 (w.pickUp exchange).2 := by
  have waiting := same.exchanges exchange own
  unfold World.pickUp
  cases alone : u.exchanges[exchange]? with
  | none =>
      cases both : w.exchanges[exchange]? with
      | none => exact ⟨.inl ⟨_, rfl, rfl⟩, same.still⟩
      | some queue => simp [alone, both] at waiting
  | some queue =>
      cases both : w.exchanges[exchange]? with
      | none => simp [alone, both] at waiting
      | some queue' =>
          rw [alone, both] at waiting
          obtain waiting : List.Forall₂ (fun link link' => (link, link') ∈ ν.links) queue queue' := by
            simpa using waiting
          cases waiting with
          | nil => exact ⟨.inl ⟨_, rfl, rfl⟩, same.still⟩
          | @cons link link' rest rest' known later =>
              refine ⟨.inr ⟨_, _, rfl, rfl, known⟩, .refl ν,
                { same with exchanges := fun other mine => ?_ },
                { same.still.touches with exchanges := fun other foreign => ?_ }⟩
              · by_cases here : exchange = other
                · subst here
                  have short := (Array.getElem?_eq_some_iff.1 alone).1
                  have short' := (Array.getElem?_eq_some_iff.1 both).1
                  simpa [short, short'] using later
                · simpa [here] using same.exchanges other mine
              · have different : exchange ≠ other := fun same => foreign (same ▸ own)
                simp [different]

/-- A registry is opened in both worlds. -/
theorem openRegistry (same : SameWorld x ν u w) (className : String) (transform : Transform) :
    Follows x ν (ν.withRegistry u.registries.size w.registries.size) w
      (u.openRegistry className transform).2 (w.openRegistry className transform).2 where
  within := ν.within_withRegistry _ _
  same :=
    { files := same.files
      links := same.links
      registries := same.registries.push _
      parked := same.parked.mono (ν.within_withRegistry _ _) rfl
      exchanges := same.exchanges.mono (ν.within_withRegistry _ _) }
  touches := { same.still.touches with registries := .push _ }

/-- The same registry takes the place of one of the process. -/
theorem setRegistry (same : SameWorld x ν u w) (known : (i, j) ∈ ν.registries)
    (registry : Registry) :
    Follows x ν ν w { u with registries := u.registries.setIfInBounds i registry }
      { w with registries := w.registries.setIfInBounds j registry } where
  within := .refl ν
  same := { same with registries := same.registries.set known registry }
  touches := { same.still.touches with registries := .set known registry }

theorem emptyRegistry (same : SameWorld x ν u w) (known : (i, j) ∈ ν.registries) :
    Follows x ν ν w (u.emptyRegistry i) (w.emptyRegistry j) := by
  obtain ⟨registry, alone, both⟩ := same.registries.cells (i, j) known
  have modified {a : Array Registry} {k : Nat} (found : a[k]? = some registry) :
      a.modify k Registry.clear = a.setIfInBounds k registry.clear := by
    refine Array.ext_getElem? fun l => ?_
    by_cases here : k = l
    · subst here
      rw [Array.getElem?_modify, if_pos rfl, found]
      simp [(Array.getElem?_eq_some_iff.1 found).1]
    · simp [Array.getElem?_modify, here]
  have follows := same.setRegistry known registry.clear
  rw [← modified alone, ← modified both] at follows
  exact follows

/-- A class is offered to hooks that mean the same. -/
theorem load (same : SameWorld x ν u w) {hook hook' : LoadHook} (alike : ν.SameLoadHook hook hook')
    (name : String) (data : ByteArray) :
    (w.load hook' name data).1 = (u.load hook name data).1 ∧
      Follows x ν ν w (u.load hook name data).2 (w.load hook' name data).2 := by
  cases alike with
  | always transform => exact ⟨rfl, same.still⟩
  | registry known =>
      obtain ⟨registry, alone, both⟩ := same.registries.cells _ known
      simp only [World.load, alone, both]
      exact ⟨trivial, same.setRegistry known _⟩

/-- A payload is put on disk in a directory of the process. -/
theorem deposit (same : SameWorld x ν u w) {dir : String} (own : x.dirs dir)
    (direct : FileTree.Direct dir) (payload : Payload) :
    (Depot.deposit w.files dir payload).1 = (Depot.deposit u.files dir payload).1 ∧
      Follows x ν ν w { u with files := (Depot.deposit u.files dir payload).2 }
        { w with files := (Depot.deposit w.files dir payload).2 } := by
  obtain ⟨answer, files⟩ := same.files.deposit payload own direct
  have adds := Depot.deposit_adds w.files dir payload
  generalize Depot.deposit w.files dir payload = both at answer files adds
  generalize Depot.deposit u.files dir payload = alone at answer files
  exact ⟨answer, .refl ν, { same with files := files },
    { same.still.touches with files := .inr ⟨dir, payload, own, adds⟩ }⟩

/-- Swaps are taken out of both tables. -/
theorem setParked (same : SameWorld x ν u w) {t t' : Parked} (parked : SameParked x ν t t')
    (touches : TouchesParked x.pid ν.tokens ν.tokens w.parked t') :
    Follows x ν ν w { u with parked := t } { w with parked := t' } where
  within := .refl ν
  same := { same with parked := parked }
  touches := { same.still.touches with parked := touches }

/-- A swap is parked in both tables. -/
theorem park (same : SameWorld x ν u w) {swap swap' : PendingSwap}
    (alike : ν.SameSwap x swap swap') :
    Follows x ν (ν.withToken u.parked.next w.parked.next) w
      { u with parked := (u.parked.park swap).2 } { w with parked := (w.parked.park swap').2 } where
  within := ν.within_withToken _ _
  same :=
    { files := same.files
      links := same.links
      registries := same.registries
      parked := (same.parked.park alike).1
      exchanges := same.exchanges.mono (ν.within_withToken _ _) }
  touches := { same.still.touches with parked := (same.parked.park alike).2 }

/-- The process learns that the natives are bound. -/
theorem bound (same : SameWorld x ν u w) : Follows x ν { ν with bound := true } w u w := by
  have within : ν.Within { ν with bound := true } :=
    ⟨List.Subset.refl _, List.Subset.refl _, List.Subset.refl _, fun _ => rfl⟩
  exact ⟨within,
    ⟨same.files, same.links, same.registries, same.parked.mono within rfl,
      same.exchanges.mono within⟩,
    ⟨.inl rfl, .refl .., .refl .., .refl _ same.parked.sound, fun _ _ => rfl⟩⟩

/-- What another process does leaves this one's part of the world the same. -/
theorem touched (same : SameWorld x ν u w) {own own' : Names} {w' : World}
    (touches : Touches y own own' w w') (apart : x.Apart u.files y) (names : own.Apart ν) :
    SameWorld x ν u w' ∧ own'.Apart ν := by
  obtain ⟨links, linksApart⟩ := same.links.touched touches.links names.links
  obtain ⟨registries, registriesApart⟩ :=
    same.registries.touched touches.registries names.registries
  obtain ⟨parked, tokensApart⟩ := same.parked.touched touches.parked apart.pid names.tokens
  refine ⟨⟨?_, links, registries, parked, ?_⟩, linksApart, registriesApart, tokensApart⟩
  · rcases touches.files with still | ⟨dir, payload, foreign, adds⟩
    · rw [still]
      exact same.files
    · exact same.files.touched (apart.direct dir foreign)
        (fun mine own => apart.dirs mine own dir foreign) adds
  · intro exchange mine
    rw [touches.exchanges exchange fun foreign => apart.exchanges exchange mine foreign]
    exact same.exchanges exchange mine

end SameWorld

end Worlds

/-! ## Processes -/

namespace SimulatedHost

variable {α : Type} {h h' g : SimulatedHost} {token : Option Int} {hook : Option LoadHook}

/-- The process with this token and this load hook. -/
def holding (h : SimulatedHost) (token : Option Int) (hook : Option LoadHook) : SimulatedHost :=
  { h with pendingToken := token, hook := hook }

/-- Something that neither looks at the token and the load hook of a process nor changes them. -/
def Blind (act : SimulatedHost → α × SimulatedHost) : Prop :=
  ∀ h token hook, act (h.holding token hook) = ((act h).1, (act h).2.holding token hook)

theorem holding_addCapabilities (wanted : Capabilities) :
    (h.holding token hook).addCapabilities wanted =
      ((h.addCapabilities wanted).1, (h.addCapabilities wanted).2.holding token hook) := by
  have potential : (h.holding token hook).potential = h.potential := rfl
  unfold addCapabilities
  rw [potential]
  cases wanted.missingFrom h.potential <;> rfl

theorem holding_redefine (changes : ChangeSet) :
    (h.holding token hook).redefine changes =
      ((h.redefine changes).1, (h.redefine changes).2.holding token hook) := by
  have granted : (h.holding token hook).granted = h.granted := rfl
  have faults : (h.holding token hook).fault? = h.fault? := rfl
  unfold redefine
  rw [granted, faults]
  cases h.granted.redefineClasses with
  | false => rfl
  | true => cases changes.findSome? h.fault? <;> rfl

theorem holding_provide (name : String) :
    (h.holding token hook).provide name = (h.provide name).holding token hook := by
  have loaded : (h.holding token hook).isLoaded name = h.isLoaded name := rfl
  unfold provide
  rw [loaded]
  cases h.isLoaded name <;> rfl

theorem holding_appendArchive (w : World) (archive : String) :
    (h.holding token hook).appendArchive w archive =
      ((h.appendArchive w archive).1, (h.appendArchive w archive).2.holding token hook) := by
  unfold appendArchive
  cases w.files.isFile archive with
  | false => rfl
  | true =>
      have appended : ({ h.holding token hook with archives := h.archives ++ [archive] } :
          SimulatedHost) = { h with archives := h.archives ++ [archive] }.holding token hook := rfl
      simp only [Bool.not_true, Bool.false_eq_true, if_false, Prod.mk.injEq, true_and]
      rw [← holding_provide, ← holding_provide, ← appended]
      rfl

theorem holding_callStatic_marker (method : Host.Method) (args : List Host.Value) :
    (h.holding token hook).callStatic markerClass method args =
      ((h.callStatic markerClass method args).1,
        (h.callStatic markerClass method args).2.holding token hook) := by
  have handled : ¬ markerClass = handlerClass := by decide
  have loaded : (h.holding token hook).isLoaded = h.isLoaded := rfl
  have checked : (h.holding token hook).checkHash args =
      ((h.checkHash args).1, (h.checkHash args).2.holding token hook) := by
    have resident : (h.holding token hook).residentFingerprint = h.residentFingerprint := rfl
    unfold checkHash
    rw [resident]
    split
    · cases h.residentFingerprint <;> rfl
    · rfl
  unfold callStatic
  rw [loaded, checked]
  simp only [handled, true_and, false_and, if_false]
  cases h.isLoaded markerClass with
  | false => rfl
  | true =>
      simp only [Bool.not_true, Bool.false_eq_true, if_false]
      by_cases check : method = Session.checkHash
      · simp only [check, if_true]
      by_cases ask : method = isFinishedInstrumenting
      · subst ask
        rfl
      by_cases note : method = setFinishedInstrumenting
      · subst note
        rfl
      · simp only [check, ask, note, if_false]

theorem holding_registerNatives (bindings : List NativeBinding) :
    (h.holding token hook).registerNatives bindings =
      ((h.registerNatives bindings).1, (h.registerNatives bindings).2.holding token hook) := by
  have seeded : bindings.foldl seedNative (h.holding token hook) =
      (bindings.foldl seedNative h).holding token hook := by
    induction bindings generalizing h with
    | nil => rfl
    | cons b rest ih => exact ih (h := h.seedNative b)
  have loaded : (h.holding token hook).isLoaded = h.isLoaded := rfl
  unfold registerNatives
  rw [seeded, loaded]
  cases bindings.find? fun b => !h.isLoaded b.className <;> rfl

/-- The process with one more reload of a class counted. -/
def reloaded (h : SimulatedHost) (name : String) : SimulatedHost :=
  { h with retransforms := assign name (h.retransformCount name + 1) h.retransforms }

/-- The process with the bytes that a class was transformed to, if it was. -/
def taking (h : SimulatedHost) (name : String) : Option ByteArray → SimulatedHost
  | none => h
  | some transformed =>
      { h with
        hooked := h.hooked || name == hookTarget
        classes := assign name transformed h.classes }

/-- The load hook that a class is offered to when it is loaded again. -/
def offers (h : SimulatedHost) : Option LoadHook := if h.notification then h.hook else none

/-- A class is loaded again: it may be refused, and is offered to the load hook otherwise. -/
theorem retransform_eq (h : SimulatedHost) (w : World) (name : String) :
    h.retransform w name =
      if h.granted.retransformClasses then
        match h.classBytes name with
        | none => (.error (classNotFound name), h, w)
        | some data =>
            match h.offers with
            | none => (.ok (), h.reloaded name, w)
            | some hook =>
                (.ok (), (h.reloaded name).taking name (w.load hook name data).1,
                  (w.load hook name data).2)
      else (.error (notGranted "retransform"), h, w) := by
  unfold retransform offers
  cases h.granted.retransformClasses with
  | false => rfl
  | true =>
      cases h.classBytes name with
      | none => rfl
      | some data =>
          simp only [Bool.not_true, Bool.false_eq_true, if_false, if_true]
          generalize (if h.notification then h.hook else none) = offered
          cases offered with
          | none => rfl
          | some hook =>
              dsimp only
              generalize w.load hook name data = result
              obtain ⟨_ | _, _⟩ := result <;> rfl

theorem taking_carries (name : String) (transformed : Option ByteArray) :
    h.Carries ((h.reloaded name).taking name transformed) := by
  cases transformed with
  | none => exact ⟨rfl, rfl, id, id⟩
  | some bytes =>
      refine ⟨rfl, rfl, fun hooked => ?_, id⟩
      have still : (h.reloaded name).hooked = true := hooked
      simp [taking, still]

/-- A token is given to both handlers, or refused for the same reason. -/
theorem giveToken_cases (h : SimulatedHost) (token : Option Int) (hook : Option LoadHook)
    (given given' : Int) :
    (∃ e, h.callStatic handlerClass Session.prepareForHotSwap [.long given] = (.error e, h) ∧
        (h.holding token hook).callStatic handlerClass Session.prepareForHotSwap [.long given'] =
          (.error e, h.holding token hook)) ∨
      h.callStatic handlerClass Session.prepareForHotSwap [.long given] =
          (.ok .void, { h with pendingToken := some given }) ∧
        (h.holding token hook).callStatic handlerClass Session.prepareForHotSwap [.long given'] =
          (.ok .void, h.holding (some given') hook) := by
  have marker : ¬ handlerClass = markerClass := by decide
  have loaded : (h.holding token hook).isLoaded = h.isLoaded := rfl
  have hooked : (h.holding token hook).hooked = h.hooked := rfl
  unfold callStatic SimulatedHost.prepareForHotSwap
  rw [loaded, hooked]
  simp only [marker, false_and, and_self, if_false, if_true]
  cases h.isLoaded handlerClass with
  | false => exact .inl ⟨_, rfl, rfl⟩
  | true =>
      by_cases idle : (!h.hooked) = true
      · rw [if_pos idle, if_pos idle]
        exact .inl ⟨_, rfl, rfl⟩
      · rw [if_neg idle, if_neg idle]
        exact .inr ⟨rfl, rfl⟩

/-- What a process asks of an archive is only whether it is a file. -/
theorem appendArchive_congr {u w : World} {archive : String}
    (file : w.files.isFile archive = u.files.isFile archive) (h : SimulatedHost) :
    h.appendArchive w archive = h.appendArchive u archive := by
  unfold appendArchive
  rw [file]

end SimulatedHost

open SimulatedHost

/-- Processes in the same state, but for the token of the handler and the registry that is the load
hook, which mean the same.  Where a token is held the handler's call back is the agent's. -/
structure SameHost (x : Tenant) (ν : Names) (h h' : SimulatedHost) : Prop where
  pid : h.pid = x.pid
  state : h' = h.holding h'.pendingToken h'.hook
  token : Option.Rel (fun token token' => (token, token') ∈ ν.tokens) h.pendingToken h'.pendingToken
  hook : Option.Rel ν.SameLoadHook h.hook h'.hook
  callable : ν.bound = true → h.Callable
  bound : h.pendingToken.isSome = true → ν.bound = true

namespace SameHost

variable {α : Type} {h h' g : SimulatedHost} {token : Option Int} {hook : Option LoadHook}

theorem mono (same : SameHost x ν h h') (within : ν.Within ν')
    (callable : ν'.bound = true → h.Callable) : SameHost x ν' h h' where
  pid := same.pid
  state := same.state
  token := rel_imp same.token fun _ _ known => within.tokens known
  hook := rel_imp same.hook fun _ _ alike => alike.mono within
  callable := callable
  bound held := within.bound (same.bound held)

/-- Whatever a process carries on with, the other carries on with it. -/
theorem moved (same : SameHost x ν h (h.holding token hook)) (carries : h.Carries g)
    (hooks : g.hook = h.hook) : SameHost x ν g (g.holding token hook) where
  pid := carries.pid.trans same.pid
  state := rfl
  token := carries.pendingToken ▸ same.token
  hook := hooks ▸ same.hook
  callable bound := carries.callable (same.callable bound)
  bound held := same.bound (carries.pendingToken ▸ held)

/-- What is blind to the difference does the same in both. -/
theorem act (same : SameHost x ν h h') (act : SimulatedHost → α × SimulatedHost)
    (blind : Blind act) (carries : h.Carries (act h).2) :
    (act h').1 = (act h).1 ∧ SameHost x ν (act h).2 (act h').2 := by
  have hooks : (act h).2.hook = h.hook := by
    have itself := blind h h.pendingToken h.hook
    exact congrArg (·.2.hook) itself
  have same' := same.state ▸ same
  rw [same.state, blind]
  exact ⟨rfl, same'.moved carries hooks⟩

/-- The call is counted in both. -/
theorem enter (same : SameHost x ν h h') : SameHost x ν h.enter h'.enter := by
  have same' := same.state ▸ same
  rw [same.state]
  exact same'.moved ⟨rfl, rfl, id, id⟩ rfl

/-- Hooks that mean the same are installed in both. -/
theorem setHook (same : SameHost x ν h h') {hook hook' : Option LoadHook}
    (alike : Option.Rel ν.SameLoadHook hook hook') :
    SameHost x ν { h.enter with hook := hook } { h'.enter with hook := hook' } where
  pid := same.pid
  state := by
    rw [same.state]
    rfl
  token := same.token
  hook := alike
  callable := same.callable
  bound := same.bound

end SameHost

/-! ## Scenes -/

/-- A process that runs among others mirrors itself running alone. -/
structure SameScene (x : Tenant) (ν : Names) (s s' : Scene SimulatedHost) : Prop where
  host : SameHost x ν s.host s'.host
  world : SameWorld x ν s.world s'.world

/-- Both made a step. -/
structure Step (x : Tenant) (ν ν' : Names) (w : World) (s s' : Scene SimulatedHost) : Prop where
  host : SameHost x ν' s.host s'.host
  world : Follows x ν ν' w s.world s'.world

/-- Ways to connect that mean the same. -/
inductive SameDoor (x : Tenant) (ν : Names) : Connector → Connector → Prop where
  | refusing (error : TransportError) : SameDoor x ν (.refusing error) (.refusing error)
  | ready {link link' : LinkId} (known : (link, link') ∈ ν.links) :
      SameDoor x ν (.ready link) (.ready link')
  | exchange {id : Nat} (own : x.exchanges id) : SameDoor x ν (.exchange id) (.exchange id)

theorem SameDoor.mono {door door' : Connector} (same : SameDoor x ν door door')
    (within : ν.Within ν') : SameDoor x ν' door door' := by
  cases same with
  | refusing error => exact .refusing error
  | ready known => exact .ready (within.links known)
  | exchange own => exact .exchange own

section Answers

variable {h h' : SimulatedHost} {u w : World} {s s' : Scene SimulatedHost} {door door' : Connector}

/-- A class is loaded again in both processes. -/
theorem SameHost.retransform (host : SameHost x ν h h') (world : SameWorld x ν u w)
    (name : String) :
    (h'.retransform w name).1 = (h.retransform u name).1 ∧
      SameHost x ν (h.retransform u name).2.1 (h'.retransform w name).2.1 ∧
      Follows x ν ν w (h.retransform u name).2.2 (h'.retransform w name).2.2 := by
  have same := host.state ▸ host
  rw [host.state]
  generalize h'.pendingToken = token at same
  generalize h'.hook = hook at same
  have offered : Option.Rel ν.SameLoadHook h.offers (h.holding token hook).offers := by
    have notified : (h.holding token hook).notification = h.notification := rfl
    unfold offers
    rw [notified]
    cases h.notification with
    | false => exact .none
    | true => exact same.hook
  have granted : (h.holding token hook).granted = h.granted := rfl
  have bytes : (h.holding token hook).classBytes name = h.classBytes name := rfl
  rw [retransform_eq, retransform_eq, granted, bytes]
  split
  case isFalse => exact ⟨rfl, same, world.still⟩
  cases h.classBytes name with
  | none => exact ⟨rfl, same, world.still⟩
  | some data =>
  generalize h.offers = one at offered
  generalize (h.holding token hook).offers = other at offered
  cases offered with
  | none => exact ⟨rfl, same.moved ⟨rfl, rfl, id, id⟩ rfl, world.still⟩
  | @some one other alike =>
      obtain ⟨answer, follows⟩ := world.load alike name data
      dsimp only
      rw [answer]
      refine ⟨rfl, ?_, follows⟩
      have taken (transformed : Option ByteArray) :
          SameHost x ν ((h.reloaded name).taking name transformed)
            (((h.holding token hook).reloaded name).taking name transformed) := by
        have moved := same.moved (h.taking_carries name transformed)
        cases transformed <;> exact moved rfl
      exact taken _

/-- A call in which no name occurs is answered the same in both processes. -/
theorem SameScene.answer_plain (same : SameScene x ν s s') {call : HostCall} (plain : call.Plain) :
    (Scene.answer door' (.host call) s').1 = (Scene.answer door (.host call) s).1 ∧
      Step x ν ν s'.world (Scene.answer door (.host call) s).2
        (Scene.answer door' (.host call) s').2 := by
  have nothing : HandsNothing call := by
    cases call <;> trivial
  have carries := answer_carries nothing s.host s.world
  -- All but two kinds of calls leave the world, the token and the hook alone.
  have blindly (act : SimulatedHost → call.Answer × SimulatedHost) (blind : Blind act)
      (alone : Scene.answer door (.host call) s = ((act s.host).1, ⟨(act s.host).2, s.world⟩))
      (both : Scene.answer door' (.host call) s' = ((act s'.host).1, ⟨(act s'.host).2, s'.world⟩)) :
      (Scene.answer door' (.host call) s').1 = (Scene.answer door (.host call) s).1 ∧
        Step x ν ν s'.world (Scene.answer door (.host call) s).2
          (Scene.answer door' (.host call) s').2 := by
    have carried : s.host.Carries (act s.host).2 := by
      have left : (Host.Model.answer call s.host s.world).2.1 = (act s.host).2 :=
        congrArg (·.2.host) alone
      exact left ▸ carries
    obtain ⟨answer, host⟩ := same.host.act act blind carried
    rw [alone, both]
    exact ⟨answer, host, same.world.still⟩
  cases call with
  | potentialCapabilities => exact blindly (fun h => (h.potential, h.enter)) (fun _ _ _ => rfl) rfl rfl
  | addCapabilities wanted =>
      exact blindly (·.enter.addCapabilities wanted)
        (fun h _ _ => h.enter.holding_addCapabilities wanted) rfl rfl
  | setLoadHook hook =>
      obtain rfl : hook = none := plain
      exact ⟨rfl, same.host.setHook .none, same.world.still⟩
  | setLoadNotification enabled =>
      exact blindly (fun h => (.ok (), { h.enter with notification := enabled }))
        (fun _ _ _ => rfl) rfl rfl
  | retransformClass name =>
      obtain ⟨answer, host, follows⟩ := same.host.enter.retransform same.world name
      exact ⟨answer, host, follows⟩
  | redefineClasses changes =>
      exact blindly (·.enter.redefine changes) (fun h _ _ => h.enter.holding_redefine changes) rfl rfl
  | findClass name =>
      exact blindly (fun h => (h.isLoaded name, h.enter)) (fun _ _ _ => rfl) rfl rfl
  | callStatic className method args =>
      obtain rfl : className = markerClass := plain
      exact blindly (·.enter.callStatic markerClass method args)
        (fun h _ _ => h.enter.holding_callStatic_marker method args) rfl rfl
  | appendToBootstrapSearch archive => exact plain.elim
  | registerNatives bindings => exact plain.elim
  | processId => exact plain.elim

/-- An archive is appended in both processes where it is a file in both worlds or in neither. -/
theorem SameScene.append (same : SameScene x ν s s') {archive : String}
    (file : s'.world.files.isFile archive = s.world.files.isFile archive) :
    (Scene.answer door' (.host (.appendToBootstrapSearch archive)) s').1 =
        (Scene.answer door (.host (.appendToBootstrapSearch archive)) s).1 ∧
      Step x ν ν s'.world (Scene.answer door (.host (.appendToBootstrapSearch archive)) s).2
        (Scene.answer door' (.host (.appendToBootstrapSearch archive)) s').2 := by
  have nothing : HandsNothing (.appendToBootstrapSearch archive) := trivial
  have carries := answer_carries nothing s.host s.world
  obtain ⟨answer, host⟩ := same.host.act (·.enter.appendArchive s.world archive)
    (fun h _ _ => h.enter.holding_appendArchive s.world archive) carries
  rw [← appendArchive_congr file s'.host.enter] at answer host
  exact ⟨answer, host, same.world.still⟩

/-- The agent's natives are bound in both processes, or refused for the same reason. -/
theorem SameScene.bindNatives (same : SameScene x ν s s') :
    ∃ ν', ((Scene.answer door' (.host (.registerNatives nativeBindings)) s').1 =
          (Scene.answer door (.host (.registerNatives nativeBindings)) s).1 ∧
        ((Scene.answer door (.host (.registerNatives nativeBindings)) s).1 = .ok () →
          ν'.bound = true)) ∧
      Step x ν ν' s'.world (Scene.answer door (.host (.registerNatives nativeBindings)) s).2
        (Scene.answer door' (.host (.registerNatives nativeBindings)) s').2 := by
  have nothing : HandsNothing (.registerNatives nativeBindings) := rfl
  have carries := answer_carries nothing s.host s.world
  obtain ⟨answer, host⟩ := same.host.act (·.enter.registerNatives nativeBindings)
    (fun h _ _ => h.enter.holding_registerNatives nativeBindings) carries
  rcases s.host.enter.registerNatives_cases with ⟨e, refused⟩ | ⟨natives, updates, bound⟩
  · refine ⟨ν, ⟨answer, fun fine => ?_⟩, host, same.world.still⟩
    have failed : (s.host.enter.registerNatives nativeBindings).1 = .ok () := fine
    rw [refused] at failed
    cases failed
  · refine ⟨{ ν with bound := true }, ⟨answer, fun _ => rfl⟩, ?_, same.world.bound⟩
    refine host.mono same.world.bound.within fun _ => ?_
    show (s.host.enter.registerNatives nativeBindings).2.Callable
    rw [bound]
    exact updates.callable

/-- The question by which a handler is given a token. -/
def handsOver (token : Int) : Question :=
  .host (.callStatic handlerClass Session.prepareForHotSwap [.long token])

/-- Tokens of the same swap are given to both handlers, or refused for the same reason. -/
theorem SameScene.giveToken (same : SameScene x ν s s') {token token' : Int}
    (known : (token, token') ∈ ν.tokens) (bound : ν.bound = true) :
    (Scene.answer door' (handsOver token') s').1 = (Scene.answer door (handsOver token) s).1 ∧
      Step x ν ν s'.world (Scene.answer door (handsOver token) s).2
        (Scene.answer door' (handsOver token') s').2 := by
  have entered := same.host.enter
  have cases := s.host.enter.giveToken_cases s'.host.enter.pendingToken s'.host.enter.hook token token'
  rw [← entered.state] at cases
  rcases cases with ⟨e, alone, both⟩ | ⟨alone, both⟩
  · refine ⟨(congrArg Prod.fst both).trans (congrArg Prod.fst alone).symm, ?_, same.world.still⟩
    show SameHost x ν (s.host.enter.callStatic _ _ _).2 (s'.host.enter.callStatic _ _ _).2
    rw [alone, both]
    exact entered
  · refine ⟨(congrArg Prod.fst both).trans (congrArg Prod.fst alone).symm, ?_, same.world.still⟩
    show SameHost x ν (s.host.enter.callStatic _ _ _).2 (s'.host.enter.callStatic _ _ _).2
    rw [alone, both]
    exact ⟨entered.pid, rfl, .some known, entered.hook, entered.callable, fun _ => bound⟩

/-- Questions about the world alone leave the process as it is. -/
theorem SameScene.worldly (same : SameScene x ν s s')
    (follows : Follows x ν ν' s'.world u w) (bound : ν'.bound = ν.bound) :
    Step x ν ν' s'.world ⟨s.host, u⟩ ⟨s'.host, w⟩ where
  host := same.host.mono follows.within fun held => same.host.callable (bound ▸ held)
  world := follows

/-- Asked alike, a process that runs among others answers as it does alone, and mirrors itself
behind the answer. -/
theorem SameScene.answer (same : SameScene x ν s s')
    (direct : ∀ dir, x.dirs dir → FileTree.Direct dir) (doors : SameDoor x ν door door')
    {q q' : Question} {S : Names → q.Answer → q'.Answer → Prop} (alike : Alike x ν q q' S) :
    ∃ ν', S ν' (Scene.answer door q s).1 (Scene.answer door' q' s').1 ∧
      Step x ν ν' s'.world (Scene.answer door q s).2 (Scene.answer door' q' s').2 := by
  cases alike with
  | plain plain => exact ⟨ν, same.answer_plain plain⟩
  | processId =>
      have pid : s'.host.pid = s.host.pid := by
        rw [same.host.state]
        rfl
      exact ⟨ν, ⟨same.host.pid, pid.trans same.host.pid⟩, same.host, same.world.still⟩
  | bindNatives => exact same.bindNatives
  | giveToken known bound => exact ⟨ν, same.giveToken known bound⟩
  | setHook known =>
      exact ⟨ν, rfl, same.host.setHook (.some (.registry known)), same.world.still⟩
  | @inject dir own payload =>
      exact ⟨ν, same.append (same.world.files.isFile own (direct dir own) payload)⟩
  | connect =>
      cases doors with
      | refusing error => exact ⟨ν, .inl ⟨_, rfl, rfl⟩, same.host, same.world.still⟩
      | ready known => exact ⟨ν, .inr ⟨_, _, rfl, rfl, known⟩, same.host, same.world.still⟩
      | exchange own =>
          obtain ⟨met, follows⟩ := same.world.pickUp own
          exact ⟨ν, met, same.worldly follows rfl⟩
  | receive known =>
      obtain ⟨answer, follows⟩ := same.world.onLink known (.error .closed) Link.read
      exact ⟨ν, answer, same.worldly follows rfl⟩
  | send known frame =>
      obtain ⟨answer, follows⟩ := same.world.onLink known (.error .closed) (Link.write frame)
      exact ⟨ν, answer, same.worldly follows rfl⟩
  | hangUp known =>
      obtain ⟨answer, follows⟩ := same.world.onLink known () fun l => ((), l.close)
      exact ⟨ν, answer, same.worldly follows rfl⟩
  | @deposit dir own payload =>
      have stored : ∀ path, (Depot.deposit s.world.files dir payload).1 = .ok path →
          path = Depot.target dir payload := fun _ => Depot.path_of_deposit
      obtain ⟨answer, follows⟩ := same.world.deposit own (direct dir own) payload
      rw [Scene.answer_deposit, Scene.answer_deposit]
      generalize Depot.target dir payload = target at stored
      generalize Depot.deposit s.world.files dir payload = alone at stored answer follows
      generalize Depot.deposit s'.world.files dir payload = both at answer follows
      exact ⟨ν, ⟨answer, stored⟩, same.worldly follows rfl⟩
  | openRegistry className transform =>
      have follows := same.world.openRegistry className transform
      exact ⟨_, List.mem_append_right _ (List.mem_singleton_self _), same.worldly follows rfl⟩
  | emptyRegistry known => exact ⟨ν, rfl, same.worldly (same.world.emptyRegistry known) rfl⟩
  | park alike =>
      have follows := same.world.park alike
      exact ⟨_, List.mem_append_right _ (List.mem_singleton_self _), same.worldly follows rfl⟩
  | take known =>
      obtain ⟨taken, parked, touches⟩ := same.world.parked.take known
      exact ⟨ν, taken, same.worldly (same.world.setParked parked touches) rfl⟩
  | takeSuperseded known =>
      obtain ⟨taken, parked, touches⟩ := same.world.parked.takeSuperseded known
      exact ⟨ν, taken, same.worldly (same.world.setParked parked touches) rfl⟩

end Answers

end HotSwap
