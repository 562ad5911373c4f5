import Botik.Execution.BybitRest

/-!
# What is sent again

How often a request is sent is bounded by its two flags: a retry for the time may be followed by
another for the transport, which only a `GET` has. A request that is no `GET` is sent again only
after an answer that complains about the time.

## Main results

* `request_spec` — what a call does, from any flags
* `post_not_resent_blindly` — with the default flags
* `sendOrder_spec` — an order
-/

namespace Botik

/-- An answer that complains about the time. -/
def IsTimeSkew (outcome : Except String ApiReply) : Prop :=
  ∃ reply, outcome = .ok reply ∧ reply.retCode = some 10002

variable {o : Outcomes} {method : String}

/-- A sending leaves one event. -/
theorem events_of_send_ok {events events' : List RequestEvent} {out : ApiReply}
    (h : send o method events = .ok out events') :
    events' = events ++ [.sent method (.ok out)] := by
  unfold send at h
  cases hsend : o.send (sendings events).length with
  | ok out' =>
    simp only [hsend] at h
    cases h
    rfl
  | error exc =>
    simp only [hsend] at h
    cases h

theorem events_of_send_error {events events' : List RequestEvent} {exc : String}
    (h : send o method events = .error exc events') :
    events' = events ++ [.sent method (.error exc)] := by
  unfold send at h
  cases hsend : o.send (sendings events).length with
  | ok out =>
    simp only [hsend] at h
    cases h
  | error exc' =>
    simp only [hsend] at h
    cases h
    rfl

/-- So does a synchronization, which is no sending. -/
theorem events_of_sync_ok {events events' : List RequestEvent}
    (h : syncServerTime o events = .ok () events') : events' = events ++ [.synced (.ok ())] := by
  unfold syncServerTime at h
  cases hsync : o.sync (events.filterMap RequestEvent.sync?).length with
  | ok =>
    simp only [hsync] at h
    cases h
    rfl
  | error exc =>
    simp only [hsync] at h
    cases h

theorem events_of_sync_error {events events' : List RequestEvent} {exc : String}
    (h : syncServerTime o events = .error exc events') :
    events' = events ++ [.synced (.error exc)] := by
  unfold syncServerTime at h
  cases hsync : o.sync (events.filterMap RequestEvent.sync?).length with
  | ok =>
    simp only [hsync] at h
    cases h
  | error exc' =>
    simp only [hsync] at h
    cases h
    rfl

/-- What a call did: it sent something, no more often than its flags allow, and a request that is no
`GET` again only after a complaint about the time. -/
structure Sent (method : String) (retryOnTimeSkew retryOnTransport : Bool)
    (new : List RequestEvent) : Prop where
  ne_nil : sendings new ≠ []
  length_le : (sendings new).length ≤ 2 * retryOnTimeSkew.toNat + retryOnTransport.toNat + 1
  length_le_of_ne_get : Text.upper method ≠ "GET" →
    (sendings new).length ≤ retryOnTimeSkew.toNat + 1
  again : Text.upper method ≠ "GET" → ∀ outcome ∈ (sendings new).dropLast, IsTimeSkew outcome

/-- A request that is sent once. -/
theorem Sent.once (method : String) (retryOnTimeSkew retryOnTransport : Bool)
    (outcome : Except String ApiReply) {rest : List RequestEvent} (hrest : sendings rest = []) :
    Sent method retryOnTimeSkew retryOnTransport (.sent method outcome :: rest) := by
  have hnew : sendings (.sent method outcome :: rest) = [outcome] := by
    change outcome :: sendings rest = _
    rw [hrest]
  refine ⟨by simp [hnew], ?_, fun _ => ?_, fun _ => by simp [hnew]⟩
  · rw [hnew, List.length_singleton]
    omega
  · rw [hnew, List.length_singleton]
    omega

/-- A `GET` is sent again after a transport error, with that flag lowered. -/
theorem Sent.afterTransport {retryOnTimeSkew : Bool} {exc : String} {new : List RequestEvent}
    (hget : Text.upper method = "GET") (h : Sent method retryOnTimeSkew false new) :
    Sent method retryOnTimeSkew true (.sent method (.error exc) :: new) := by
  have hnew : sendings (.sent method (.error exc) :: new) = .error exc :: sendings new := rfl
  refine ⟨by simp [hnew], ?_, fun hne => absurd hget hne, fun hne => absurd hget hne⟩
  have hle := h.length_le
  rw [hnew, List.length_cons]
  simp only [Bool.toNat_false, Bool.toNat_true] at hle ⊢
  omega

/-- Any request is sent again after a complaint about the time, with the other flag raised. -/
theorem Sent.afterSkew {retryOnTransport : Bool} {out : ApiReply} {new : List RequestEvent}
    (hskew : out.retCode = some 10002) (h : Sent method false true new) :
    Sent method true retryOnTransport
      (.sent method (.ok out) :: .synced (.ok ()) :: new) := by
  have hnew : sendings (.sent method (.ok out) :: .synced (.ok ()) :: new) =
      .ok out :: sendings new := rfl
  have hle := h.length_le
  simp only [Bool.toNat_false, Bool.toNat_true] at hle
  refine ⟨by simp [hnew], ?_, fun hne => ?_, fun hne outcome houtcome => ?_⟩
  · rw [hnew, List.length_cons, Bool.toNat_true]
    omega
  · have hle' := h.length_le_of_ne_get hne
    simp only [Bool.toNat_false] at hle'
    rw [hnew, List.length_cons, Bool.toNat_true]
    omega
  · rw [hnew, List.dropLast_cons_of_ne_nil h.ne_nil] at houtcome
    rcases List.mem_cons.mp houtcome with rfl | hlater
    · exact ⟨out, rfl, hskew⟩
    · exact h.again hne outcome hlater

/-- A call returns an answer, whatever the network does. -/
theorem request_spec (o : Outcomes) (method : String) (retryOnTimeSkew retryOnTransport : Bool)
    (events : List RequestEvent) :
    ∃ reply new, request o method retryOnTimeSkew retryOnTransport events =
        .ok reply (events ++ new) ∧ Sent method retryOnTimeSkew retryOnTransport new := by
  induction retryOnTimeSkew, retryOnTransport, events using request.induct o method with
  | case1 skew transport events exc sent hsend hretry ih =>
    -- a `GET` after a transport error
    obtain ⟨hget, rfl⟩ := hretry
    obtain ⟨reply, new, hrun, hnew⟩ := ih
    obtain rfl := events_of_send_error hsend
    refine ⟨reply, .sent method (.error exc) :: new, ?_, hnew.afterTransport hget⟩
    rw [request, hsend]
    simp only [hget, and_self, if_true]
    rw [hrun, List.append_assoc]
    rfl
  | case2 skew transport events exc sent hsend hretry =>
    obtain rfl := events_of_send_error hsend
    refine ⟨transportError exc, [.sent method (.error exc)], ?_,
      Sent.once method skew transport (.error exc) rfl⟩
    rw [request, hsend]
    simp only [if_neg hretry]
  | case3 skew transport events out sent hsend hzero =>
    obtain rfl := events_of_send_ok hsend
    refine ⟨out, [.sent method (.ok out)], ?_, Sent.once method skew transport (.ok out) rfl⟩
    rw [request, hsend]
    simp only [if_pos hzero]
  | case4 skew transport events out sent hsend hzero hskew exc synced hsync =>
    -- the clock could not be synchronized
    obtain rfl := events_of_send_ok hsend
    have hevents := events_of_sync_error hsync
    refine ⟨out, [.sent method (.ok out), .synced (.error exc)], ?_,
      Sent.once method skew transport (.ok out) rfl⟩
    rw [request, hsend]
    simp only [if_neg hzero, if_pos hskew, hsync]
    rw [hevents, List.append_assoc]
    rfl
  | case5 skew transport events out sent hsend hzero hskew synced hsync ih =>
    obtain ⟨hcode, rfl⟩ := hskew
    obtain ⟨reply, new, hrun, hnew⟩ := ih
    obtain rfl := events_of_send_ok hsend
    have hevents := events_of_sync_ok hsync
    refine ⟨reply, .sent method (.ok out) :: .synced (.ok ()) :: new, ?_, hnew.afterSkew hcode⟩
    rw [request, hsend]
    simp only [hcode, and_self, if_true, hsync]
    rw [hrun, hevents, List.append_assoc, List.append_assoc]
    rfl
  | case6 skew transport events out sent hsend hzero hskew =>
    obtain rfl := events_of_send_ok hsend
    refine ⟨out, [.sent method (.ok out)], ?_, Sent.once method skew transport (.ok out) rfl⟩
    rw [request, hsend]
    simp only [if_neg hzero, if_neg hskew]

/-- With its default flags a call returns an answer. A `POST` is sent at most twice, and again only
after a complaint about the time; a `GET` is sent at most four times. -/
theorem post_not_resent_blindly (o : Outcomes) :
    (∃ reply events, request o "POST" true true [] = .ok reply events ∧
      (sendings events).length ≤ 2 ∧ ∀ outcome ∈ (sendings events).dropLast, IsTimeSkew outcome) ∧
    ∃ reply events, request o "GET" true true [] = .ok reply events ∧
      (sendings events).length ≤ 4 := by
  have hpost : Text.upper "POST" ≠ "GET" := by decide +kernel
  obtain ⟨reply, new, hrun, hsent⟩ := request_spec o "POST" true true []
  obtain ⟨reply', new', hrun', hsent'⟩ := request_spec o "GET" true true []
  rw [List.nil_append] at hrun hrun'
  exact ⟨⟨reply, new, hrun, hsent.length_le_of_ne_get hpost, hsent.again hpost⟩,
    reply', new', hrun', hsent'.length_le⟩

/-- An order that is placed is sent at most twice, and again only after such a complaint. -/
theorem sendOrder_spec (o : Outcomes) (category : MarketCategory) (filters : Option LotFilters)
    (side qty price : String) :
    ∃ reply events, sendOrder o category filters side qty price [] = .ok reply events ∧
      (sendings events).length ≤ 2 ∧ ∀ outcome ∈ (sendings events).dropLast, IsTimeSkew outcome := by
  unfold sendOrder
  cases normalizeOrderQty category filters side qty price with
  | none => exact ⟨_, [], rfl, by simp [sendings], by simp [sendings]⟩
  | some q =>
    have hpost : Text.upper "POST" ≠ "GET" := by decide +kernel
    obtain ⟨reply, new, hrun, hsent⟩ := request_spec o "POST" true true []
    exact ⟨reply, new, hrun, hsent.length_le_of_ne_get hpost, hsent.again hpost⟩

end Botik
