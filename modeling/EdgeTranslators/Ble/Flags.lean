import EdgeTranslators.Ble.Acts
import EdgeTranslators.Ble.InHand

/-!
# The flag of a device and its registration

`BLE_DEVICE_FLAG_REGISTERED` is set and cleared by idle callbacks, while Edge registers devices when
it is asked to and forgets them with the connection.

* `Session`, `sessionStep`    a run, and whether the translator was registered on this connection;
* `FlagFits`                  the flag tells the truth once the queued callbacks have run, or the device
                              is to be registered again, or its context is to be deleted;
* `KeepsFlags`                no step leaves a flag that does not fit;
* `flag_atRest`               at rest a flag is set iff Edge has the device registered, in such runs.
-/

namespace EdgeTranslators.Ble
open Lib Pt

structure Session where
  translator : Translator
  /-- `protocol_translator_registration_success` has run on the current connection -/
  reported : Bool

def Event.reports (t : Translator) (reported : Bool) : Event → Bool
  | .connectionReady _ => false
  | .disconnected => false
  | .translatorRegistered => t.edgeIsConnected
  | _ => reported

def sessionStep (cfg : Config) (s : Session) (label : Event × Answers) : Option Session :=
  (step cfg s.translator label).map fun t' =>
    { translator := t', reported := label.1.reports s.translator s.reported }

/-- Edge is asked to register the device on the current connection -/
def Registering (l : Life) (id : String) : Prop :=
  ∃ sent ∈ l.requests, sent.request = .register id ∧ l.connection = some sent.connection

def FlagFits (reported : Bool) (l : Life) (id : String) (flag : Bool) : Prop :=
  flagAfter flag (told id l.idle) = decide (id ∈ l.registered) ∨
    Told.unregistered true ∈ told id l.idle ∨
    (flagAfter flag (told id l.idle) = true ∧ (reported = false ∨ Registering l id))

def FlagsFit (reported : Bool) (l : Life) : Prop :=
  ∀ c ∈ l.contexts, FlagFits reported l c.deviceId c.registered

/-- no context is made for a device that Edge has registered; after a new connection every device
whose flag is set is registered again, and Edge does not refuse this; no unregistration fails of a
device that Edge has registered and whose context stays -/
def KeepsFlags (cfg : Config) (s : Session) : Event × Answers → Prop
  | (.objectAdded proxy _ _, _) =>
    s.translator.keepRunning = true → bleFindDeviceFromProxy cfg s.translator proxy = none →
      ∀ a ∈ proxy.address, FlagFits s.reported s.translator.life (cfg.id a) false
  | (.translatorRegistered, ans) =>
    s.translator.edgeIsConnected = true → ∀ ble ∈ s.translator.devices,
      FlagFits true s.translator.life ble.deviceId ble.registered ∨
        (deviceExists s.translator.client ble.deviceId = true ∧ ans.register ble.deviceId = true)
  | (.answered k false, _) =>
    ∀ sent ∈ s.translator.requests[k]?, ∀ ble ∈ s.translator.devices,
      (sent.request = .register ble.deviceId →
        FlagFits s.reported { s.translator.life with
          requests := s.translator.requests.eraseIdx k } ble.deviceId ble.registered) ∧
      (sent.request = .unregister ble.deviceId false → ble.deviceId ∉ s.translator.registered ∨
        Told.unregistered true ∈ told ble.deviceId s.translator.idle)
  | _ => True

instance (l : Life) (id : String) : Decidable (Registering l id) := by
  unfold Registering
  infer_instance

instance (reported : Bool) (l : Life) (id : String) (flag : Bool) :
    Decidable (FlagFits reported l id flag) := by
  unfold FlagFits
  infer_instance

instance (cfg : Config) (s : Session) :
    (label : Event × Answers) → Decidable (KeepsFlags cfg s label)
  | (.objectAdded _ _ _, _) | (.translatorRegistered, _) | (.answered _ false, _) => by
    dsimp only [KeepsFlags]
    infer_instance
  | (.tick _, _) | (.objectRemoved _, _) | (.connectDone _ _, _) | (.removeDeviceDone _, _)
  | (.readReply _ _, _) | (.connectedChanged _ _, _) | (.servicesResolvedChanged _ _, _)
  | (.retryTimer _, _) | (.runIdle, _) | (.readEverything, _) | (.connectionReady _, _)
  | (.disconnected, _) | (.translatorRegistrationFailed, _) | (.connectionShutdown, _)
  | (.shutdownSignal, _) | (.resourceWrite _ _ _ _ _, _) | (.answered _ true, _) =>
    .isTrue trivial

section
variable {cfg : Config} {ans : Answers} {t t' : Translator} {l l' : Life} {a : Act} {c : Context}
  {id : String} {flag flag' reported : Bool}

/-! ## what keeps a flag fitting -/

theorem FlagFits.congr (h : FlagFits reported l id flag)
    (htold : told id l'.idle = told id l.idle)
    (hregistered : id ∈ l'.registered ↔ id ∈ l.registered)
    (hrequest : reported = false ∨ (Registering l id → Registering l' id)) :
    FlagFits reported l' id flag := by
  unfold FlagFits
  rw [htold, decide_eq_decide.mpr hregistered]
  rcases h with htrue | hdoomed | ⟨hset, hagain⟩
  · exact .inl htrue
  · exact .inr (.inl hdoomed)
  · refine .inr (.inr ⟨hset, ?_⟩)
    rcases hrequest with hno | hrequest
    · exact .inl hno
    · exact hagain.imp_right hrequest

/-- before the translator is registered on a new connection all flags may be set -/
theorem FlagFits.unreported (h : FlagFits reported l id flag) : FlagFits false l id flag := by
  rcases h with htrue | hdoomed | ⟨hset, -⟩
  · exact .inl htrue
  · exact .inr (.inl hdoomed)
  · exact .inr (.inr ⟨hset, .inl rfl⟩)

/-- contexts change, but not their flags -/
theorem FlagsFit.congr (h : FlagsFit reported l)
    (hcontexts : ∀ c' ∈ l'.contexts, ∃ c ∈ l.contexts, c'.deviceId = c.deviceId ∧
      c'.registered = c.registered)
    (htold : ∀ id, told id l'.idle = told id l.idle) (hregistered : l'.registered = l.registered)
    (hrequest : reported = false ∨ ∀ id, Registering l id → Registering l' id) :
    FlagsFit reported l' := by
  intro c' hc'
  obtain ⟨c, hc, hid, hflag⟩ := hcontexts c' hc'
  rw [hid, hflag]
  exact (h c hc).congr (htold _) (by rw [hregistered]) (hrequest.imp_right fun h => h _)

theorem told_quit (id : String) {idle idle' : List Idle}
    (h : idle' = idle ∨ idle' = idle ++ [Idle.quitLoop]) : told id idle' = told id idle := by
  rcases h with rfl | rfl
  · rfl
  · rw [told_concat]
    exact List.append_nil _

/-- a callback leaves the queue, and the flag is what it says -/
theorem FlagFits.pop {i : Idle} {rest : List Idle} (h : FlagFits reported l id flag)
    (hidle : l.idle = i :: rest)
    (hi : (i.told? id = none ∧ flag' = flag) ∨
      ∃ x, i.told? id = some x ∧ x ≠ .unregistered true ∧ flag' = decide (x = .registered)) :
    FlagFits reported { l with idle := rest } id flag' := by
  have htold := told_cons id i rest
  rw [← hidle] at htold
  rcases hi with ⟨hnone, rfl⟩ | ⟨x, hx, hne, rfl⟩
  · rw [hnone] at htold
    exact h.congr htold.symm Iff.rfl (.inr fun h => h)
  · rw [hx] at htold
    have hafter : flagAfter flag (told id l.idle) =
        flagAfter (decide (x = .registered)) (told id rest) := by
      rw [htold]
      rfl
    unfold FlagFits at h ⊢
    rw [hafter] at h
    rcases h with htrue | hdoomed | hset
    · exact .inl htrue
    · refine .inr (.inl ?_)
      rw [htold] at hdoomed
      rcases List.mem_append.mp hdoomed with hhead | hrest
      · exact absurd (Option.mem_toList.mp hhead) fun heq => hne (Option.some.inj heq)
      · exact hrest
    · exact .inr (.inr hset)

theorem told?_registered (id id' : String) :
    (Idle.deviceRegistered id).told? id' = if id = id' then some .registered else none := rfl

theorem told?_unregistered (id id' : String) (deleteContext : Bool) :
    (Idle.deviceUnregistered id deleteContext).told? id' =
      if id = id' then some (.unregistered deleteContext) else none := rfl

/-- a callback that says what a flag is sets it -/
theorem FlagsFit.setFlag {i : Idle} {rest : List Idle} {x : Told} (hwf : l.WellFormed cfg)
    (h : FlagsFit reported l) (hidle : l.idle = i :: rest) (hc : c ∈ l.contexts)
    (hi : ∀ id', i.told? id' = if c.deviceId = id' then some x else none)
    (hx : x ≠ .unregistered true) :
    FlagsFit reported ({ l with idle := rest }.flag c (decide (x = Told.registered))) := by
  intro d' hd'
  obtain ⟨d, hd, rfl⟩ := Life.mem_update hd'
  by_cases hdc : d.ptr = c.ptr
  · obtain rfl := hwf.eq_of_ptr hc hd hdc
    rw [if_pos rfl]
    refine (h d hd).pop hidle (.inr ⟨x, ?_, hx, rfl⟩)
    rw [hi, if_pos rfl]
  · have hne : c.deviceId ≠ d.deviceId := fun hid => hdc (by rw [hwf.eq_of_id hc hd hid.symm])
    rw [if_neg hdc]
    refine (h d hd).pop hidle (.inl ⟨?_, rfl⟩)
    rw [hi, if_neg hne]

/-- a callback about no context leaves the queue -/
theorem FlagsFit.pop {i : Idle} {rest : List Idle} (h : FlagsFit reported l)
    (hidle : l.idle = i :: rest) (hi : ∀ c ∈ l.contexts, i.told? c.deviceId = none) :
    FlagsFit reported { l with idle := rest } :=
  fun c hc => (h c hc).pop hidle (.inl ⟨hi c hc, rfl⟩)

theorem FlagsFit.tell {i : Idle} {rest : List Idle} (hwf : l.WellFormed cfg)
    (h : FlagsFit reported l) (hidle : l.idle = i :: rest) :
    FlagsFit reported (Life.tell { l with idle := rest } i) := by
  cases i with
  | deviceRegistered id =>
    have hfind : Life.find { l with idle := rest } id = l.find id := rfl
    simp only [Life.tell, hfind]
    cases hid : l.find id with
    | none =>
      exact h.pop hidle fun c hc => if_neg (Life.ne_of_find hid hc).symm
    | some c =>
      obtain ⟨hc, rfl⟩ := Life.mem_of_find hid
      exact h.setFlag hwf hidle hc (told?_registered _) fun heq => by cases heq
  | deviceUnregistered id deleteContext =>
    have hfind : Life.find { l with idle := rest } id = l.find id := rfl
    simp only [Life.tell, hfind]
    cases hid : l.find id with
    | none => exact h.pop hidle fun c hc => if_neg (Life.ne_of_find hid hc).symm
    | some c =>
      obtain ⟨hc, rfl⟩ := Life.mem_of_find hid
      cases deleteContext with
      | false => exact h.setFlag hwf hidle hc (told?_unregistered _ · false) fun heq => by cases heq
      | true =>
        -- the context is gone, and the callback was about no other
        intro d hd
        have hcontexts := (Life.delete_contexts { l with idle := rest } c).1
        simp only [if_true] at hd ⊢
        rw [hcontexts] at hd
        obtain ⟨hptr, hd⟩ := Life.mem_drop hd
        have hne : c.deviceId ≠ d.deviceId := fun heq => hptr (by rw [hwf.eq_of_id hc hd heq.symm])
        have hpop : FlagFits reported { l with idle := rest } d.deviceId d.registered :=
          (h d hd).pop hidle (.inl ⟨if_neg hne, rfl⟩)
        obtain ⟨contexts, timers, idle, hquit, heq⟩ := Life.delete_eq { l with idle := rest } c
        rw [heq]
        exact hpop.congr (told_quit _ hquit) Iff.rfl (.inr fun h => h)
  | _ => exact h.pop hidle fun _ _ => rfl

/-! ## the changes of a step -/

theorem mem_contexts_update {f : Context → Context} {ptr : Nat}
    (hf : ∀ c, (f c).deviceId = c.deviceId ∧ (f c).registered = c.registered) :
    ∀ d ∈ (l.update ptr f).contexts, ∃ c ∈ l.contexts, d.deviceId = c.deviceId ∧
      d.registered = c.registered := by
  intro d hd
  obtain ⟨c, hc, rfl⟩ := Life.mem_update hd
  refine ⟨c, hc, ?_⟩
  split
  · exact hf c
  · exact ⟨rfl, rfl⟩

theorem FlagsFit.drop (h : FlagsFit reported l) (c : Context) : FlagsFit reported (l.drop c) := by
  obtain ⟨contexts, timers, heq⟩ := Life.drop_eq l c
  have hmem : ∀ d ∈ (l.drop c).contexts, ∃ c ∈ l.contexts, d.deviceId = c.deviceId ∧
      d.registered = c.registered := fun d hd => ⟨d, (Life.mem_drop hd).2, rfl, rfl⟩
  rw [heq] at hmem ⊢
  exact h.congr hmem (fun _ => rfl) rfl (.inr fun _ h => h)

theorem FlagsFit.delete (h : FlagsFit reported l) (c : Context) :
    FlagsFit reported (l.delete c) := by
  have hcontexts := (Life.delete_contexts l c).1
  obtain ⟨contexts, timers, idle, hquit, heq⟩ := Life.delete_eq l c
  refine h.congr (fun d hd => ?_) (fun id => ?_) ?_ (.inr ?_)
  · rw [hcontexts] at hd
    exact ⟨d, (Life.mem_drop hd).2, rfl, rfl⟩
  · rw [heq]
    exact told_quit id hquit
  · rw [heq]
  · rw [heq]
    exact fun _ h => h

/-- what is neither a new context nor an answer keeps the flags fitting -/
theorem FlagsFit.apply (hwf : l.WellFormed cfg) (h : FlagsFit reported l) (hlegal : a.Legal cfg l)
    (hcreate : ∀ c, a ≠ .create c) (hanswer : ∀ k ok, a ≠ .answer k ok)
    (hconnect : ∀ connection, a = .connect connection → reported = false)
    (hdisconnect : a = .disconnect → reported = false) : FlagsFit reported (a.apply l) := by
  have hsame : ∀ c' ∈ l.contexts, ∃ c ∈ l.contexts, c'.deviceId = c.deviceId ∧
      c'.registered = c.registered := fun c hc => ⟨c, hc, rfl, rfl⟩
  cases a with
  | create c => exact absurd rfl (hcreate c)
  | drop c => exact h.drop c
  | delete c => exact h.delete c
  | arm c delayMs =>
    exact h.congr (mem_contexts_update fun _ => ⟨rfl, rfl⟩) (fun _ => rfl) rfl (.inr fun _ h => h)
  | stop c =>
    simp only [Act.apply, Life.stop]
    split
    · exact h
    · exact h.congr (mem_contexts_update fun _ => ⟨rfl, rfl⟩) (fun _ => rfl) rfl
        (.inr fun _ h => h)
  | send r =>
    simp only [Act.apply, Life.send]
    split
    · exact h
    · refine h.congr hsame (fun _ => rfl) rfl (.inr ?_)
      rintro id ⟨sent, hsent, hreq⟩
      exact ⟨sent, List.mem_append_left _ hsent, hreq⟩
  | queue i =>
    refine h.congr hsame (fun id => ?_) rfl (.inr fun _ h => h)
    show told id (l.idle ++ [i]) = _
    rw [told_concat, hlegal id]
    exact List.append_nil _
  | unregisterAll =>
    obtain ⟨idle, hquit, heq⟩ := Life.unregisterAll_eq l
    rw [Act.apply, heq]
    exact h.congr hsame (fun id => told_quit id hquit) rfl (.inr fun _ h => h)
  | fire k c =>
    exact h.congr (mem_contexts_update fun _ => ⟨rfl, rfl⟩) (fun _ => rfl) rfl (.inr fun _ h => h)
  | tell i =>
    obtain ⟨rest, hidle⟩ := List.head?_eq_some_iff.mp hlegal
    have htell := h.tell hwf hidle
    rw [Act.apply, hidle]
    exact htell
  | answer k ok => exact absurd rfl (hanswer k ok)
  | connect connection =>
    exact h.congr hsame (fun _ => rfl) rfl (.inl (hconnect connection rfl))
  | disconnect =>
    -- nothing is registered any more, and every flag that is set waits for the next connection
    intro c hc
    have hno : decide (c.deviceId ∈ ([] : List String)) = false := rfl
    cases hafter : flagAfter c.registered (told c.deviceId l.idle) with
    | false => exact .inl (hafter.trans hno.symm)
    | true => exact .inr (.inr ⟨hafter, .inl (hdisconnect rfl)⟩)
  | _ => exact h.congr hsame (fun _ => rfl) rfl (.inr fun _ h => h)

/-! ## answers -/

theorem registering_eraseIdx {k : Nat} {sent : Sent} (hk : l.requests[k]? = some sent)
    (hne : sent.request ≠ .register id) (h : Registering l id) :
    Registering { l with requests := l.requests.eraseIdx k } id := by
  obtain ⟨sent', hsent', hreq, hconn⟩ := h
  obtain ⟨j, hj⟩ := List.mem_iff_getElem?.mp hsent'
  refine ⟨sent', List.mem_eraseIdx_iff_getElem?.mpr ⟨j, fun hjk => hne ?_, hj⟩, hreq, hconn⟩
  subst hjk
  rw [Option.some.inj (hk.symm.trans hj), hreq]

theorem FlagsFit.answer {k : Nat} {ok : Bool} {sent : Sent} (h : FlagsFit reported l)
    (hk : l.requests[k]? = some sent)
    (hrefused : ok = false → ∀ c ∈ l.contexts,
      (sent.request = .register c.deviceId → FlagFits reported
        { l with requests := l.requests.eraseIdx k } c.deviceId c.registered) ∧
      (sent.request = .unregister c.deviceId false → c.deviceId ∉ l.registered ∨
        Told.unregistered true ∈ told c.deviceId l.idle)) :
    FlagsFit reported ((Act.answer k ok).apply l) := by
  have herase : ∀ c ∈ l.contexts, sent.request ≠ .register c.deviceId →
      FlagFits reported { l with requests := l.requests.eraseIdx k } c.deviceId c.registered :=
    fun c hc hne => (h c hc).congr rfl Iff.rfl (.inr (registering_eraseIdx hk hne))
  simp only [Act.apply, hk]
  intro c hc
  rw [(Life.answer_contexts _ _ _).1] at hc
  cases hreq : sent.request with
  | register id =>
    by_cases hid : id = c.deviceId
    · subst hid
      cases ok with
      | false => exact ((hrefused rfl c hc).1 hreq)
      | true =>
        -- Edge has it registered, and the callback is queued
        refine .inl ?_
        show flagAfter _ (told _ (l.idle ++ [_])) = decide (c.deviceId ∈ c.deviceId :: l.registered)
        rw [told_concat, told?_registered, if_pos rfl, Option.toList_some, flagAfter_concat]
        simp
    · have hne : sent.request ≠ .register c.deviceId := fun heq =>
        hid (Request.register.inj (hreq.symm.trans heq))
      cases ok with
      | false => exact herase c hc hne
      | true =>
        refine (herase c hc hne).congr ?_ ?_ (.inr fun h => h)
        · show told _ (l.idle ++ [_]) = _
          rw [told_concat, told?_registered, if_neg hid]
          exact List.append_nil _
        · show c.deviceId ∈ id :: l.registered ↔ _
          rw [List.mem_cons, or_iff_right fun heq => hid heq.symm]
  | unregister id deleteContext =>
    have hne : sent.request ≠ .register c.deviceId := by
      rw [hreq]
      intro heq
      cases heq
    have hqueue : told c.deviceId (l.idle ++ [Idle.deviceUnregistered id deleteContext]) =
        told c.deviceId l.idle ++
          if id = c.deviceId then [.unregistered deleteContext] else [] := by
      rw [told_concat, told?_unregistered]
      split <;> rfl
    by_cases hid : id = c.deviceId
    · subst hid
      rw [if_pos rfl] at hqueue
      have hclear : flagAfter c.registered
          (told c.deviceId
            (l.idle ++ [Idle.deviceUnregistered c.deviceId deleteContext])) = false := by
        rw [hqueue, flagAfter_concat]
        rfl
      cases ok with
      | true =>
        refine .inl (hclear.trans ?_)
        show _ = decide (c.deviceId ∈ l.registered.filter (· ≠ c.deviceId))
        simp
      | false =>
        cases deleteContext with
        | true =>
          refine .inr (.inl ?_)
          show _ ∈ told _ (l.idle ++ [_])
          rw [hqueue]
          exact List.mem_append_right _ (List.mem_singleton_self _)
        | false =>
          rcases (hrefused rfl c hc).2 hreq with hno | hdoomed
          · exact .inl (hclear.trans (decide_eq_false hno).symm)
          · refine .inr (.inl ?_)
            show _ ∈ told _ (l.idle ++ [_])
            rw [hqueue]
            exact List.mem_append_left _ hdoomed
    · rw [if_neg hid, List.append_nil] at hqueue
      cases ok with
      | true =>
        refine (herase c hc hne).congr hqueue ?_ (.inr fun h => h)
        show c.deviceId ∈ l.registered.filter (· ≠ id) ↔ _
        rw [List.mem_filter]
        exact and_iff_left (by simpa using fun heq => hid heq.symm)
      | false => exact (herase c hc hne).congr hqueue Iff.rfl (.inr fun h => h)

end

/-! ## steps -/

section
variable {cfg : Config} {ans : Answers} {t t' : Translator} {ble : BleDevice} {id : String}
  {reported : Bool} {s s' : Session}

/-- requests are all that is new -/
def OnlyRequests (l l' : Life) : Prop :=
  ∃ requests, l' = { l with requests := l.requests ++ requests }

theorem OnlyRequests.refl (l : Life) : OnlyRequests l l := by
  refine ⟨[], ?_⟩
  rw [List.append_nil]

theorem OnlyRequests.trans {l l' l'' : Life} (h : OnlyRequests l l') (h' : OnlyRequests l' l'') :
    OnlyRequests l l'' := by
  obtain ⟨requests, rfl⟩ := h
  obtain ⟨requests', rfl⟩ := h'
  exact ⟨requests ++ requests', by rw [List.append_assoc]⟩

theorem OnlyRequests.send (l : Life) (r : Request) : OnlyRequests l (l.send r) := by
  unfold Life.send
  split
  · exact .refl l
  · exact ⟨_, rfl⟩

theorem OnlyRequests.registering {l l' : Life} (h : OnlyRequests l l') (hreg : Registering l id) :
    Registering l' id := by
  obtain ⟨requests, rfl⟩ := h
  obtain ⟨sent, hsent, hrest⟩ := hreg
  exact ⟨sent, List.mem_append_left _ hsent, hrest⟩

theorem OnlyRequests.flagFits {l l' : Life} {flag : Bool} (h : OnlyRequests l l')
    (hfits : FlagFits reported l id flag) : FlagFits reported l' id flag := by
  have hrequest : Registering l id → Registering l' id := h.registering
  obtain ⟨requests, rfl⟩ := h
  exact hfits.congr rfl Iff.rfl (.inr hrequest)

theorem edgeRegisterDevice_only (ans : Answers) (t : Translator) (id : String) :
    OnlyRequests t.life (edgeRegisterDevice ans t id).life := by
  unfold edgeRegisterDevice
  simp only
  split
  · rw [send_life]
    exact .send t.life _
  · exact .refl t.life

theorem edgeRegisterDevice_registering (hconn : t.edgeIsConnected = true)
    (hexists : deviceExists t.client id = true) (hyes : ans.register id = true) :
    Registering (edgeRegisterDevice ans t id).life id := by
  obtain ⟨connection, hconnection⟩ := Option.isSome_iff_exists.mp hconn
  have hlife : (edgeRegisterDevice ans t id).life = t.life.send (.register id) := by
    unfold edgeRegisterDevice
    exact (congrArg Translator.life (if_pos ⟨hexists, hyes⟩)).trans (send_life _ _)
  have hconnection' : t.life.connection = some connection := hconnection
  rw [hlife]
  unfold Life.send
  split
  · rename_i hnone
    exact absurd (hnone.symm.trans hconnection') nofun
  · rename_i connection' hsome
    exact ⟨_, List.mem_append_right _ (List.mem_singleton_self _), rfl, hsome⟩

/-- every device the client has, and takes the registration of, is registered -/
theorem registrationSuccess_registers (ans : Answers) (ds : List BleDevice) (t : Translator) :
    OnlyRequests t.life
        (ds.foldl (fun t dev => edgeRegisterDevice ans t dev.deviceId) t).life ∧
      (t.edgeIsConnected = true → ∀ d ∈ ds, deviceExists t.client d.deviceId = true →
        ans.register d.deviceId = true →
        Registering (ds.foldl (fun t dev => edgeRegisterDevice ans t dev.deviceId) t).life
          d.deviceId) := by
  induction ds generalizing t with
  | nil => exact ⟨.refl _, nofun⟩
  | cons d ds ih =>
    obtain ⟨honly, hregisters⟩ := ih (edgeRegisterDevice ans t d.deviceId)
    have hclient := (edgeRegisterDevice_same ans t d.deviceId).2
    refine ⟨(edgeRegisterDevice_only ans t d.deviceId).trans honly, ?_⟩
    intro hconn d' hd' hexists hyes
    rcases List.mem_cons.mp hd' with rfl | hd'
    · exact honly.registering (edgeRegisterDevice_registering hconn hexists hyes)
    · refine hregisters ?_ d' hd' ?_ hyes
      · rwa [Translator.edgeIsConnected, hclient]
      · rwa [hclient]

theorem FlagsFit.translatorRegistered (h : FlagsFit reported t.life)
    (hkeeps : t.edgeIsConnected = true → ∀ ble ∈ t.devices,
      FlagFits true t.life ble.deviceId ble.registered ∨
        (deviceExists t.client ble.deviceId = true ∧ ans.register ble.deviceId = true)) :
    FlagsFit t.edgeIsConnected (protocolTranslatorRegistrationSuccess ans t).life := by
  obtain ⟨honly, hregisters⟩ := registrationSuccess_registers ans t.devices t
  intro c hc
  have hc' : c ∈ t.life.contexts := by
    obtain ⟨requests, heq⟩ := honly
    unfold protocolTranslatorRegistrationSuccess at hc
    rwa [heq] at hc
  obtain ⟨ble, hble, rfl⟩ := List.mem_map.mp hc'
  cases hconn : t.edgeIsConnected with
  | false => exact honly.flagFits (h _ hc').unreported
  | true =>
    rcases hkeeps hconn ble hble with hfits | ⟨hexists, hyes⟩
    · exact honly.flagFits hfits
    · have hagain := hregisters hconn ble hble hexists hyes
      rcases honly.flagFits (h _ hc') with htrue | hdoomed | ⟨hset, -⟩
      · exact .inl htrue
      · exact .inr (.inl hdoomed)
      · exact .inr (.inr ⟨hset, .inr hagain⟩)

/-- a new context is of a device whose flag is clear with reason -/
structure Creates (cfg : Config) (reported : Bool) (proxy : DeviceProxy) (l : Life) : Prop where
  fit : FlagsFit reported l
  new : l.keepRunning = true → ∀ a ∈ proxy.address, l.find (cfg.id a) = none →
    FlagFits reported l (cfg.id a) false

theorem bleNewDevice_creates {proxy : DeviceProxy} (h : Creates cfg reported proxy t.life) :
    FlagsFit reported (bleNewDevice cfg t proxy).life := by
  unfold bleNewDevice
  split
  · rename_i hrunning
    have hcreate : FlagsFit reported
        (bleCreateDeviceContext cfg t proxy .persistentGattServer).life := by
      rcases bleCreateDeviceContext_cases cfg t proxy .persistentGattServer with
        ⟨heq, -⟩ | ⟨a, haddr, hfind, heq⟩
      · rw [heq]
        exact h.fit
      · have hnew : t.life.find (cfg.id a) = none := by
          rw [life_find]
          rw [bleFindDeviceFromProxy, haddr, Option.bind_some] at hfind
          rw [hfind]
          rfl
        have hfits := h.new hrunning a haddr hnew
        rw [heq]
        intro c hc
        simp only [Translator.life, List.map_append, List.map_cons, List.map_nil] at hc
        rcases List.mem_append.mp hc with hc | hc
        · exact h.fit c hc
        · rw [List.mem_singleton.mp hc]
          exact hfits
    exact hcreate
  · exact h.fit

theorem step_flagsFit {label : Event × Answers} (hwf : WellFormed cfg s.translator)
    (hs : FlagsFit s.reported s.translator.life) (hkeeps : KeepsFlags cfg s label)
    (h : sessionStep cfg s label = some s') : FlagsFit s'.reported s'.translator.life := by
  obtain ⟨t', hstep, rfl⟩ := Option.map_eq_some_iff.mp h
  obtain ⟨e, ans⟩ := label
  -- an event that makes no context and answers nothing
  have hother : ∀ reported, FlagsFit reported s.translator.life →
      (∀ c, ¬e.may cfg ans s.translator (.create c)) →
      (∀ k ok, ¬e.may cfg ans s.translator (.answer k ok)) →
      (∀ connection, e = .connectionReady connection → reported = false) →
      (e = .disconnected → reported = false) → FlagsFit reported t'.life := by
    intro reported hfit hcreate hanswer hconnect hdisconnect
    refine (step_acts hwf hstep).keeps (life_wellFormed hwf) hfit fun l a hwf hl hlegal hmay => ?_
    refine hl.apply hwf hlegal (fun c hc => ?_) (fun k ok ha => ?_) (fun connection ha => ?_)
      fun ha => ?_
    · exact hcreate c (hc ▸ hmay)
    · exact hanswer k ok (ha ▸ hmay)
    · subst ha
      exact hconnect connection hmay
    · subst ha
      exact hdisconnect hmay
  have hrun := handle_of_step hstep
  cases e with
  | objectAdded proxy connected resolved =>
    have hcreates : Creates cfg s.reported proxy s.translator.life := by
      refine ⟨hs, fun hrunning a haddr hnew => hkeeps hrunning ?_ a haddr⟩
      rw [life_find] at hnew
      rw [bleFindDeviceFromProxy, haddr, Option.bind_some]
      exact Option.map_eq_none_iff.mp hnew
    cases handled_of_handle hrun with
    | @objectAdded _ _ _ links hlinks =>
      exact bleNewDevice_creates (t := { s.translator with effects := [], links }) hcreates
  | answered k ok =>
    cases handled_of_handle hrun with
    | @answered _ _ sent hk hlive =>
      rw [answered_life hk]
      refine hs.answer hk fun hno c hc => ?_
      subst hno
      obtain ⟨ble, hble, rfl⟩ := List.mem_map.mp hc
      exact hkeeps sent hk ble hble
  | translatorRegistered =>
    rw [← Option.some.inj hrun]
    exact FlagsFit.translatorRegistered (t := { s.translator with effects := [] }) hs hkeeps
  | connectionReady connection =>
    exact hother false (fun c hc => (hs c hc).unreported) (by rintro c ⟨_, _, ⟨⟩⟩)
      (by rintro k ok ⟨⟩) (fun _ _ => rfl) (by rintro ⟨⟩)
  | disconnected =>
    exact hother false (fun c hc => (hs c hc).unreported) (by rintro c ⟨_, _, ⟨⟩⟩)
      (by rintro k ok ⟨⟩) (by rintro connection ⟨⟩) fun _ => rfl
  | _ =>
    exact hother _ hs (by rintro c ⟨_, _, ⟨⟩⟩) (by rintro k ok ⟨⟩) (by rintro connection ⟨⟩)
      (by rintro ⟨⟩)

/-- Edge is connected, the handlers of the connection have run, and nothing is pending -/
structure Session.AtRest (s : Session) : Prop where
  connected : s.translator.edgeIsConnected = true
  reported : s.reported = true
  requests : s.translator.requests = []
  idle : s.translator.idle = []

/-- **At rest the flag of a tracked device is set iff Edge has the device registered, in every run
that keeps the flags.** -/
theorem flag_atRest {now : Nat} {connection : Option Nat} {labels : List (Event × Answers)}
    (h : Run (sessionStep cfg) (KeepsFlags cfg) ⟨start now connection, false⟩ labels s)
    (hrest : s.AtRest) (hble : ble ∈ s.translator.devices) :
    ble.registered = true ↔ ble.deviceId ∈ s.translator.registered := by
  have hfit : WellFormed cfg s.translator ∧ FlagsFit s.reported s.translator.life := by
    refine @Run.invariant _ _ _ _ _ _ _
      (fun s : Session => WellFormed cfg s.translator ∧ FlagsFit s.reported s.translator.life) h
      ⟨start_wellFormed cfg now connection, nofun⟩ ?_
    intro s label s' ⟨hwf, hs⟩ hok hstep
    refine ⟨?_, step_flagsFit hwf hs hok hstep⟩
    obtain ⟨t', hstep', rfl⟩ := Option.map_eq_some_iff.mp hstep
    exact step_wellFormed hwf hstep'
  have htold : told ble.deviceId s.translator.life.idle = [] := by
    show told ble.deviceId s.translator.idle = []
    rw [hrest.idle]
    rfl
  have hbit := hfit.2 _ (context_mem hble)
  unfold FlagFits at hbit
  rw [show ble.context.deviceId = ble.deviceId from rfl, htold] at hbit
  rcases hbit with htrue | hdoomed | ⟨-, hno | ⟨sent, hsent, -⟩⟩
  · show ble.registered = true ↔ _
    rw [show ble.registered = decide (ble.deviceId ∈ s.translator.registered) from htrue]
    exact decide_eq_true_iff
  · cases hdoomed
  · exact absurd (hno.symm.trans hrest.reported) nofun
  · have hnone : sent ∈ s.translator.requests := hsent
    rw [hrest.requests] at hnone
    cases hnone

end

/-- a device joins after the translator is registered -/
def joinsRegistered : List Event := [.connectionReady 0, .runIdle, .translatorRegistered] ++ joins

theorem flag_atRest_joins : ∃ labels s,
    Run (sessionStep plainConfig) (KeepsFlags plainConfig) ⟨start 0 none, false⟩ labels s ∧
      s.AtRest ∧ ∃ ble ∈ s.translator.devices,
        ble.registered = true ∧ ble.deviceId ∈ s.translator.registered := by
  have hany : (run (guarded (sessionStep plainConfig) fun s label => KeepsFlags plainConfig s label)
      ⟨start 0 none, false⟩ (plainLabels joinsRegistered)).any (fun s =>
        decide ((s.translator.edgeIsConnected = true ∧ s.reported = true ∧
          s.translator.requests = [] ∧ s.translator.idle = []) ∧
          ∃ ble ∈ s.translator.devices, ble.registered = true)) = true := by
    decide +kernel
  obtain ⟨s, hs, ⟨hconnected, hreported, hrequests, hidle⟩, ble, hble, hset⟩ :=
    exists_of_run_any hany
  have hrest : s.AtRest := ⟨hconnected, hreported, hrequests, hidle⟩
  exact ⟨_, s, Run.of_guarded hs, hrest, ble, hble, hset,
    (flag_atRest (Run.of_guarded hs) hrest hble).mp hset⟩

/-- the device drops out, and Edge refuses to unregister it -/
def keptByEdge : List Event :=
  joinsRegistered ++ [.tick 3600] ++ drops ++ [.answered 0 false, .runIdle]

theorem not_flag_atRest : ¬∀ labels s,
    Run (sessionStep plainConfig) (fun _ _ => True) ⟨start 0 none, false⟩ labels s → s.AtRest →
      ∀ ble ∈ s.translator.devices,
        ble.registered = true ↔ ble.deviceId ∈ s.translator.registered := by
  intro h
  have hany : (run (sessionStep plainConfig) ⟨start 0 none, false⟩ (plainLabels keptByEdge)).any
      (fun s => decide ((s.translator.edgeIsConnected = true ∧ s.reported = true ∧
        s.translator.requests = [] ∧ s.translator.idle = []) ∧
        ∃ ble ∈ s.translator.devices,
          ble.registered = false ∧ ble.deviceId ∈ s.translator.registered)) = true := by
    decide +kernel
  obtain ⟨s, hs, ⟨hconnected, hreported, hrequests, hidle⟩, ble, hble, hclear, hmem⟩ :=
    exists_of_run_any hany
  have hset := (h _ s (Run.of_run hs) ⟨hconnected, hreported, hrequests, hidle⟩ ble hble).mpr hmem
  exact absurd (hclear.symm.trans hset) nofun

end EdgeTranslators.Ble
