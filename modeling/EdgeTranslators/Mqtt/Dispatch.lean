import EdgeTranslators.Lib.Tokens
import EdgeTranslators.Mqtt.Messages

/-!
# The topics of the gateway (`mqttpt-example/mqttpt_example.c`)

`mqttpt_handle_message` takes five tokens of a topic and picks the handler for the message by them.

* `mqttptHandleMessage`         the handler it calls, or the null pointer it passes to `strcmp`;
* `Subscribed`                  the topics of the filters `MQTT/#` and `MQTTGw/#`;
* `Subscribed.calls`            the handlers are picked by the levels that are not empty;
* `Dispatched`, `Exact`, `dispatched_iff`   when they are picked by all levels.
-/

namespace EdgeTranslators.Mqtt
open Lib

/-- a handler `mqttpt_handle_message` calls, with the ids it is given -/
inductive Handler where
  | gwStatus
  | nodeJoined (gweui : Option String)
  | nodeValue (gweui deveui : Option String)
  | nodeEdgeValue (gweui deveui : Option String)
  deriving DecidableEq, Repr

def mqttTopicOffsetCount : Nat := 5

/-- `topic_offset`: the results of `n` calls of `strtok_r(…, "/", &saveptr)` -/
def topicOffsets : (n : Nat) → (saveptr : List Char) → List (Option String)
  | 0, _ => []
  | n + 1, saveptr =>
    let (token, saveptr) := strtok '/' saveptr
    token.map String.ofList :: topicOffsets n saveptr

/-- what `mqttpt_handle_message` does with the tokens -/
def handleOffsets (offset : Nat → Option String) : Checked (Option Handler) := do
  if ← strcmp "MQTT" (offset 0) then return some .gwStatus
  else if ← strcmp "MQTTGw" (offset 0) then
    if offset 2 = none then return none
    else if ← strcmp "Evt" (offset 2) then return some (.nodeJoined (offset 1))
    else if ← strcmp "Node" (offset 2) then
      if offset 3 = none ∨ offset 4 = none then return none
      else if ← strcmp "Val" (offset 4) then return some (.nodeValue (offset 1) (offset 3))
      else if ← strcmp "EdgeVal" (offset 4) then
        return some (.nodeEdgeValue (offset 1) (offset 3))
      else return none
    else return none
  else return none

/-- `mqttpt_handle_message`: the handler it calls -/
def mqttptHandleMessage (topic : Option String) : Checked (Option Handler) :=
  match topic with
  | none => return none
  | some topic =>
    handleOffsets fun i => ((topicOffsets mqttTopicOffsetCount topic.toList)[i]?).join

/-- the levels of a topic -/
def levels (topic : String) : List String := (topic.toList.splitOn '/').map String.ofList

/-- the levels that are not empty -/
def names (topic : String) : List String := (levels topic).filter (· ≠ "")

/-- the topic matches `MQTT/#` or `MQTTGw/#`, which also match their first level alone -/
def Subscribed (topic : String) : Prop :=
  (levels topic).head? = some "MQTT" ∨ (levels topic).head? = some "MQTTGw"

/-- the handlers of nodes are called for the documented topics and no others -/
structure Dispatched (topic : String) : Prop where
  isOk : (mqttptHandleMessage (some topic)).isOk = true
  joined : ∀ gweui, mqttptHandleMessage (some topic) = .ok (some (.nodeJoined (some gweui))) ↔
    levels topic = ["MQTTGw", gweui, "Evt"] ∧ gweui ≠ ""
  value : ∀ gweui deveui,
    mqttptHandleMessage (some topic) = .ok (some (.nodeValue (some gweui) (some deveui))) ↔
      levels topic = ["MQTTGw", gweui, "Node", deveui, "Val"] ∧ gweui ≠ "" ∧ deveui ≠ ""
  edgeValue : ∀ gweui deveui,
    mqttptHandleMessage (some topic) = .ok (some (.nodeEdgeValue (some gweui) (some deveui))) ↔
      levels topic = ["MQTTGw", gweui, "Node", deveui, "EdgeVal"] ∧ gweui ≠ "" ∧ deveui ≠ ""

section
variable {topic gweui deveui : String}

theorem names_eq (topic : String) : names topic = (tokens '/' topic.toList).map String.ofList := by
  have hempty : ∀ cs : List Char, decide (String.ofList cs ≠ "") = decide (cs ≠ []) := by
    intro cs
    simp
  unfold names levels tokens
  rw [List.filter_map]
  congr 1
  exact List.filter_congr fun cs _ => hempty cs

/-- the `i`-th token is the `i`-th level that is not empty -/
theorem topicOffsets_getElem? {n i : Nat} (hi : i < n) (saveptr : List Char) :
    ((topicOffsets n saveptr)[i]?).join = ((tokens '/' saveptr).map String.ofList)[i]? := by
  induction n generalizing i saveptr with
  | zero => omega
  | succ n ih =>
    obtain ⟨hfirst, hrest⟩ := strtok_eq '/' saveptr
    unfold topicOffsets
    cases i with
    | zero =>
      rw [List.getElem?_cons_zero, Option.join_some, hfirst, List.getElem?_map,
        List.head?_eq_getElem?]
    | succ i =>
      rw [List.getElem?_cons_succ, ih (by omega), hrest, List.getElem?_map, List.getElem?_map,
        List.getElem?_tail]

theorem mqttptHandleMessage_eq (topic : String) :
    mqttptHandleMessage (some topic) = handleOffsets fun i => (names topic)[i]? := by
  have hoffset : ∀ i, i < 5 → ((topicOffsets mqttTopicOffsetCount topic.toList)[i]?).join =
      (names topic)[i]? := by
    intro i hi
    rw [names_eq]
    exact topicOffsets_getElem? hi topic.toList
  show handleOffsets (fun i => ((topicOffsets mqttTopicOffsetCount topic.toList)[i]?).join) = _
  unfold handleOffsets
  simp only [hoffset 0 (by decide), hoffset 1 (by decide), hoffset 2 (by decide),
    hoffset 3 (by decide), hoffset 4 (by decide)]

/-! ## the handlers by the tokens -/

theorem handleOffsets_status {offset : Nat → Option String} (h : offset 0 = some "MQTT") :
    handleOffsets offset = .ok (some .gwStatus) := by
  unfold handleOffsets
  rw [h]
  rfl

/-- the handler for the tokens of a topic of `MQTTGw/#` -/
def gatewayHandler (offset : Nat → Option String) : Option Handler :=
  if offset 2 = some "Evt" then some (.nodeJoined (offset 1))
  else if offset 2 = some "Node" ∧ offset 3 ≠ none then
    if offset 4 = some "Val" then some (.nodeValue (offset 1) (offset 3))
    else if offset 4 = some "EdgeVal" then some (.nodeEdgeValue (offset 1) (offset 3))
    else none
  else none

theorem handleOffsets_gateway {offset : Nat → Option String} (h : offset 0 = some "MQTTGw") :
    handleOffsets offset = .ok (gatewayHandler offset) := by
  have hcompare : ∀ a b : String, strcmp a (some b) = .ok (decide (some b = some a)) := by
    intro a b
    rw [strcmp_some, decide_eq_decide.mpr (eq_comm.trans Option.some_inj.symm)]
  have hfirst : handleOffsets offset =
      if offset 2 = none then return none
      else do
        if ← strcmp "Evt" (offset 2) then return some (.nodeJoined (offset 1))
        else if ← strcmp "Node" (offset 2) then
          if offset 3 = none ∨ offset 4 = none then return none
          else if ← strcmp "Val" (offset 4) then return some (.nodeValue (offset 1) (offset 3))
          else if ← strcmp "EdgeVal" (offset 4) then
            return some (.nodeEdgeValue (offset 1) (offset 3))
          else return none
        else return none := by
    unfold handleOffsets
    rw [h]
    rfl
  rw [hfirst]
  unfold gatewayHandler
  cases offset 2 with
  | none => rfl
  | some second =>
    rw [if_neg nofun, hcompare, hcompare]
    by_cases hevt : some second = some "Evt"
    · simp [hevt, bind, Except.bind, pure, Except.pure]
    by_cases hnode : some second = some "Node"
    · cases h3 : offset 3 with
      | none => simp [hnode, bind, Except.bind, pure, Except.pure]
      | some third =>
        cases h4 : offset 4 with
        | none => simp [hnode, bind, Except.bind, pure, Except.pure]
        | some fourth =>
          simp only [hcompare, hnode, bind, Except.bind, pure, Except.pure]
          by_cases hval : some fourth = some "Val"
          · simp [hval]
          by_cases hedge : some fourth = some "EdgeVal"
          · simp [hedge]
          · simp [hval, hedge]
    · simp [hevt, hnode, bind, Except.bind, pure, Except.pure]

theorem prefix_three {names : List String} {a b c : String} :
    [a, b, c] <+: names ↔ names[0]? = some a ∧ names[1]? = some b ∧ names[2]? = some c := by
  match names with
  | [] | [_] | [_, _] => simp
  | _ :: _ :: _ :: _ => simp [eq_comm]

theorem prefix_five {names : List String} {a b c d e : String} :
    [a, b, c, d, e] <+: names ↔ names[0]? = some a ∧ names[1]? = some b ∧ names[2]? = some c ∧
      names[3]? = some d ∧ names[4]? = some e := by
  match names with
  | [] | [_] | [_, _] | [_, _, _] | [_, _, _, _] => simp
  | _ :: _ :: _ :: _ :: _ :: _ => simp [eq_comm]

/-- **The handler of joined nodes is called for the non-empty levels `MQTTGw`, an id and `Evt`,
whatever follows them.** -/
theorem gatewayHandler_joined {names : List String} (h : names[0]? = some "MQTTGw") :
    gatewayHandler (fun i => names[i]?) = some (.nodeJoined (some gweui)) ↔
      ["MQTTGw", gweui, "Evt"] <+: names := by
  rw [prefix_three]
  unfold gatewayHandler
  by_cases hevt : names[2]? = some "Evt"
  · simp [h, hevt]
  · rw [if_neg hevt]
    simp only [hevt, and_false, iff_false]
    split_ifs <;> simp

/-- **The value handlers are called for the non-empty levels `MQTTGw`, an id, `Node`, an id and
`Val` or `EdgeVal`, whatever follows them.** -/
theorem gatewayHandler_value {names : List String} (h : names[0]? = some "MQTTGw") :
    (gatewayHandler (fun i => names[i]?) = some (.nodeValue (some gweui) (some deveui)) ↔
      ["MQTTGw", gweui, "Node", deveui, "Val"] <+: names) ∧
    (gatewayHandler (fun i => names[i]?) = some (.nodeEdgeValue (some gweui) (some deveui)) ↔
      ["MQTTGw", gweui, "Node", deveui, "EdgeVal"] <+: names) := by
  rw [prefix_five, prefix_five]
  unfold gatewayHandler
  by_cases hevt : names[2]? = some "Evt"
  · simp [h, hevt]
  by_cases hnode : names[2]? = some "Node"
  · cases h3 : names[3]? with
    | none => simp [h, hnode, h3]
    | some third =>
      by_cases hval : names[4]? = some "Val"
      · simp [h, hnode, h3, hval]
      by_cases hedge : names[4]? = some "EdgeVal"
      · simp [h, hnode, h3, hedge]
      · simp [h, hnode, h3, hval, hedge]
  · simp [h, hevt, hnode]

/-! ## topics -/

/-- a topic that has no level but those of its form, if the translator takes it for one of a node -/
def Exact (topic : String) : Prop :=
  (∀ gweui, ["MQTTGw", gweui, "Evt"] <+: names topic → levels topic = ["MQTTGw", gweui, "Evt"]) ∧
    ∀ gweui deveui, ∀ last ∈ ["Val", "EdgeVal"],
      ["MQTTGw", gweui, "Node", deveui, last] <+: names topic →
        levels topic = ["MQTTGw", gweui, "Node", deveui, last]

/-- the first level of a subscribed topic is its first token -/
theorem Subscribed.first (h : Subscribed topic) :
    (names topic)[0]? = some "MQTT" ∨ (names topic)[0]? = some "MQTTGw" := by
  have hfirst : ∀ first, first ≠ "" → (levels topic).head? = some first →
      (names topic)[0]? = some first := by
    intro first hne hhead
    obtain ⟨rest, hlevels⟩ := List.head?_eq_some_iff.mp hhead
    unfold names
    rw [hlevels, List.filter_cons_of_pos (by simpa using hne)]
    rfl
  rcases h with h | h
  · exact .inl (hfirst "MQTT" (by decide) h)
  · exact .inr (hfirst "MQTTGw" (by decide) h)

/-- the levels of a documented topic are its tokens -/
theorem names_of_levels {expected : List String} (h : levels topic = expected)
    (hne : ∀ level ∈ expected, level ≠ "") : names topic = expected := by
  unfold names
  rw [h, List.filter_eq_self]
  intro level hlevel
  exact decide_eq_true (hne level hlevel)

theorem ne_empty_of_names {expected : List String} (h : expected <+: names topic)
    {level : String} (hlevel : level ∈ expected) : level ≠ "" := by
  have hmem := h.subset hlevel
  unfold names at hmem
  exact of_decide_eq_true (List.mem_filter.mp hmem).2

/-- the handlers that are called for a subscribed topic, by its levels that are not empty -/
structure Calls (topic : String) : Prop where
  isOk : (mqttptHandleMessage (some topic)).isOk = true
  joined : ∀ gweui, mqttptHandleMessage (some topic) = .ok (some (.nodeJoined (some gweui))) ↔
    ["MQTTGw", gweui, "Evt"] <+: names topic
  value : ∀ gweui deveui,
    mqttptHandleMessage (some topic) = .ok (some (.nodeValue (some gweui) (some deveui))) ↔
      ["MQTTGw", gweui, "Node", deveui, "Val"] <+: names topic
  edgeValue : ∀ gweui deveui,
    mqttptHandleMessage (some topic) = .ok (some (.nodeEdgeValue (some gweui) (some deveui))) ↔
      ["MQTTGw", gweui, "Node", deveui, "EdgeVal"] <+: names topic

theorem Subscribed.calls (h : Subscribed topic) : Calls topic := by
  have hok : ∀ {a b : Option Handler}, (Except.ok a : Checked (Option Handler)) = .ok b ↔ a = b :=
    ⟨Except.ok.inj, congrArg _⟩
  rcases h.first with hfirst | hfirst
  · -- the first token of the other handlers is not that of the status
    have hno : ∀ rest, ¬"MQTTGw" :: rest <+: names topic := by
      intro rest hstarts
      obtain ⟨tail, heq⟩ := hstarts
      rw [← heq] at hfirst
      exact absurd (Option.some.inj hfirst) (by decide)
    have heq := (mqttptHandleMessage_eq topic).trans (handleOffsets_status hfirst)
    refine ⟨by rw [heq]; rfl, ?_, ?_, ?_⟩ <;> intros <;> rw [heq, hok] <;>
      exact iff_of_false nofun (hno _)
  · have heq := (mqttptHandleMessage_eq topic).trans (handleOffsets_gateway hfirst)
    refine ⟨by rw [heq]; rfl, ?_, ?_, ?_⟩
    · intro gweui
      rw [heq, hok]
      exact gatewayHandler_joined hfirst
    · intro gweui deveui
      rw [heq, hok]
      exact (gatewayHandler_value hfirst).1
    · intro gweui deveui
      rw [heq, hok]
      exact (gatewayHandler_value hfirst).2

/-- **Topics are dispatched by the documented grammar exactly when they have no level but those of
their form.** -/
theorem dispatched_iff (h : Subscribed topic) : Dispatched topic ↔ Exact topic := by
  have hcalls := h.calls
  constructor
  · intro hd
    refine ⟨?_, ?_⟩
    · intro gweui hstarts
      exact ((hd.joined gweui).mp ((hcalls.joined gweui).mpr hstarts)).1
    · intro gweui deveui last hlast hstarts
      rcases List.mem_pair.mp hlast with rfl | rfl
      · exact ((hd.value gweui deveui).mp ((hcalls.value gweui deveui).mpr hstarts)).1
      · exact ((hd.edgeValue gweui deveui).mp ((hcalls.edgeValue gweui deveui).mpr hstarts)).1
  · intro ⟨hjoined, hvalue⟩
    -- a topic of the documented form has the tokens of that form
    have hpair : ∀ gweui deveui last, (last = "Val" ∨ last = "EdgeVal") →
        (["MQTTGw", gweui, "Node", deveui, last] <+: names topic ↔
          levels topic = ["MQTTGw", gweui, "Node", deveui, last] ∧ gweui ≠ "" ∧ deveui ≠ "") := by
      intro gweui deveui last hlast
      constructor
      · intro hstarts
        exact ⟨hvalue gweui deveui last (List.mem_pair.mpr hlast) hstarts,
          ne_empty_of_names hstarts (by simp), ne_empty_of_names hstarts (by simp)⟩
      · intro ⟨hlevels, hgweui, hdeveui⟩
        have hnames := names_of_levels hlevels
          (by rcases hlast with rfl | rfl <;> simp [hgweui, hdeveui])
        exact ⟨[], (List.append_nil _).trans hnames.symm⟩
    refine ⟨hcalls.isOk, ?_, ?_, ?_⟩
    · intro gweui
      rw [hcalls.joined]
      constructor
      · intro hstarts
        exact ⟨hjoined gweui hstarts, ne_empty_of_names hstarts (by simp)⟩
      · intro ⟨hlevels, hgweui⟩
        have hnames := names_of_levels hlevels (by simp [hgweui])
        exact ⟨[], (List.append_nil _).trans hnames.symm⟩
    · intro gweui deveui
      rw [hcalls.value]
      exact hpair gweui deveui "Val" (.inl rfl)
    · intro gweui deveui
      rw [hcalls.edgeValue]
      exact hpair gweui deveui "EdgeVal" (.inr rfl)

end

theorem dispatched_iff_value :
    Subscribed "MQTTGw/74fe48ffff19d306/Node/74FE48FFFF1DFD14/Val" ∧
      (Dispatched "MQTTGw/74fe48ffff19d306/Node/74FE48FFFF1DFD14/Val" ↔
        Exact "MQTTGw/74fe48ffff19d306/Node/74FE48FFFF1DFD14/Val") :=
  have h : Subscribed "MQTTGw/74fe48ffff19d306/Node/74FE48FFFF1DFD14/Val" :=
    .inr (by decide +kernel)
  ⟨h, dispatched_iff h⟩

/-- a level that follows `Val` does not keep the values from being translated -/
theorem not_dispatched : ¬∀ topic, Subscribed topic → Dispatched topic := by
  intro h
  have hdispatched := h "MQTTGw/g/Node/d/Val/x" (.inr (by decide +kernel))
  have hcall : mqttptHandleMessage (some "MQTTGw/g/Node/d/Val/x") =
      .ok (some (.nodeValue (some "g") (some "d"))) := by decide +kernel
  have hlevels := ((hdispatched.value "g" "d").mp hcall).1
  exact absurd hlevels (by decide +kernel)

end EdgeTranslators.Mqtt
