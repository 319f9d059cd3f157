import EventFeed.Dispatch.Registry
import Mathlib.Data.List.Induction

/-! # Histories of subscriptions

The list of a type can be read off the calls that have been made: it holds the handlers whose latest
call was to subscribe, and each stands where it stood when it joined, which is when it was first
subscribed after it had last been removed.
-/

namespace EventFeed.Registry

/-- A call that may change a list. -/
inductive Edit (Handler : Type) where
  | subscribe (type : EventType) (handler : Handler)
  | unsubscribe (type : EventType) (handler : Handler)
  deriving DecidableEq

variable {Handler : Type} [DecidableEq Handler]

namespace Edit

def type : Edit Handler → EventType
  | subscribe t _ | unsubscribe t _ => t

def handler : Edit Handler → Handler
  | subscribe _ h | unsubscribe _ h => h

/-- Whether a call is about a handler's place in the list of a type. -/
def concerns (t : EventType) (h : Handler) (e : Edit Handler) : Bool :=
  e.type == t && e.handler == h

theorem concerns_iff {t : EventType} {h : Handler} {e : Edit Handler} :
    e.concerns t h = true ↔ e = .subscribe t h ∨ e = .unsubscribe t h := by
  cases e <;> simp [concerns, type, handler]

end Edit

def apply (r : Registry Handler) : Edit Handler → Registry Handler
  | .subscribe t h => (r.subscribe t h).2
  | .unsubscribe t h => (r.unsubscribe t h).2

/-- The subscriptions after some calls, the earliest first. -/
def replay (r : Registry Handler) (history : List (Edit Handler)) : Registry Handler :=
  history.foldl apply r

theorem replay_append (r : Registry Handler) (history later : List (Edit Handler)) :
    r.replay (history ++ later) = (r.replay history).replay later := List.foldl_append

@[simp] theorem replay_concat (r : Registry Handler) (history : List (Edit Handler))
    (e : Edit Handler) : r.replay (history ++ [e]) = (r.replay history).apply e :=
  r.replay_append history [e]

section Apply

variable (r : Registry Handler) (t other : EventType) (h : Handler)

theorem handlers_subscribe : (r.subscribe t h).2.handlers other =
    if t = other ∧ h ∉ r.handlers t then r.handlers other ++ [h] else r.handlers other := by
  unfold subscribe
  by_cases hmem : h ∈ r.handlers t
  · simp [hmem]
  · rw [if_neg hmem]
    change handlers ⟨setList t (r.handlers t ++ [h]) r.lists⟩ other = _
    rw [handlers_setList]
    by_cases ht : t = other
    · subst ht
      simp [hmem]
    · rw [if_neg ht, if_neg fun hand => ht hand.1]

theorem handlers_unsubscribe : (r.unsubscribe t h).2.handlers other =
    if t = other then (r.handlers other).filter (· ≠ h) else r.handlers other := by
  unfold unsubscribe
  by_cases hmem : h ∈ r.handlers t
  · rw [if_pos hmem]
    change handlers ⟨setList t ((r.handlers t).filter (· ≠ h)) r.lists⟩ other = _
    rw [handlers_setList]
    by_cases ht : t = other
    · subst ht
      rfl
    · rw [if_neg ht, if_neg ht]
  · rw [if_neg hmem]
    split
    next ht =>
      subst ht
      refine (List.filter_eq_self.mpr fun h' hmem' => ?_).symm
      simpa using fun heq : h' = h => hmem (heq ▸ hmem')
    next => rfl

/-- A call about one type leaves the lists of all others alone. -/
theorem handlers_apply_of_ne {e : Edit Handler} (he : e.type ≠ other) :
    (r.apply e).handlers other = r.handlers other := by
  cases e with
  | subscribe t h => rw [apply, handlers_subscribe, if_neg fun hand => he hand.1]
  | unsubscribe t h => rw [apply, handlers_unsubscribe, if_neg (show ¬ t = other from he)]

/-- Calls about other types leave the list of a type alone. -/
theorem handlers_replay_of_ne {history : List (Edit Handler)} (h : ∀ e ∈ history, e.type ≠ other) :
    (r.replay history).handlers other = r.handlers other := by
  induction history generalizing r with
  | nil => rfl
  | cons e history ih =>
      rw [List.forall_mem_cons] at h
      exact (ih (r.apply e) h.2).trans (r.handlers_apply_of_ne other h.1)

end Apply

/-! ## Reading a history -/

/-- The latest call about a handler's place in the list of a type. -/
def latest? (history : List (Edit Handler)) (t : EventType) (h : Handler) : Option (Edit Handler) :=
  (history.filter (Edit.concerns t h)).getLast?

def Subscribed (history : List (Edit Handler)) (t : EventType) (h : Handler) : Prop :=
  latest? history t h = some (.subscribe t h)

instance (history : List (Edit Handler)) (t : EventType) (h : Handler) :
    Decidable (Subscribed history t h) :=
  inferInstanceAs (Decidable (latest? history t h = some (.subscribe t h)))

/-- The call at a place of a history removes a handler that is subscribed there. -/
def RemovesAt (history : List (Edit Handler)) (t : EventType) (h : Handler) (n : Nat) : Prop :=
  history[n]? = some (.unsubscribe t h) ∧ Subscribed (history.take n) t h

/-- The call at a place of a history is the first to subscribe a handler since the handler was last
removed. -/
structure JoinsAt (history : List (Edit Handler)) (t : EventType) (h : Handler) (n : Nat) :
    Prop where
  subscribes : history[n]? = some (.subscribe t h)
  stays : ∀ k, n < k → ¬ RemovesAt history t h k
  first : ∀ k < n, history[k]? = some (.subscribe t h) →
    ∃ m, k < m ∧ m < n ∧ RemovesAt history t h m

/-- A handler joined the list of a type, to stay, before another did. -/
def JoinedBefore (history : List (Edit Handler)) (t : EventType) (h h' : Handler) : Prop :=
  ∃ n n', JoinsAt history t h n ∧ JoinsAt history t h' n' ∧ n < n'

section Reading

variable {history : List (Edit Handler)} {e : Edit Handler} {t : EventType} {h h' : Handler}
  {n k : Nat}

theorem subscribed_concat : Subscribed (history ++ [e]) t h ↔
    if e.concerns t h then e = .subscribe t h else Subscribed history t h := by
  unfold Subscribed latest?
  by_cases he : e.concerns t h = true <;> simp [List.filter_append, he]

theorem subscribed_subscribe :
    Subscribed (history ++ [.subscribe t h]) t h' ↔ h' = h ∨ Subscribed history t h' := by
  by_cases heq : h' = h
  · simp [subscribed_concat, Edit.concerns_iff, heq]
  · simp [subscribed_concat, Edit.concerns_iff, heq, Ne.symm heq]

theorem subscribed_unsubscribe :
    Subscribed (history ++ [.unsubscribe t h]) t h' ↔ h' ≠ h ∧ Subscribed history t h' := by
  by_cases heq : h' = h
  · simp [subscribed_concat, Edit.concerns_iff, heq]
  · simp [subscribed_concat, Edit.concerns_iff, heq, Ne.symm heq]

theorem subscribed_of_type_ne (he : e.type ≠ t) :
    Subscribed (history ++ [e]) t h ↔ Subscribed history t h := by
  have hnone : ¬ e.concerns t h = true := by simp [Edit.concerns, he]
  rw [subscribed_concat, if_neg hnone]

/-- A handler that has been unsubscribed is not subscribed until a call subscribes it again. -/
theorem not_subscribed {later : List (Edit Handler)} (hlater : .subscribe t h ∉ later) :
    ¬ Subscribed (history ++ .unsubscribe t h :: later) t h := by
  induction later using List.reverseRecOn with
  | nil =>
      rw [subscribed_unsubscribe]
      exact fun hand => hand.1 rfl
  | append_singleton later e ih =>
      rw [List.mem_append, List.mem_singleton, not_or] at hlater
      rw [← List.cons_append, ← List.append_assoc, subscribed_concat]
      split
      · exact Ne.symm hlater.2
      · exact ih hlater.1

theorem removesAt_concat_of_lt (hn : n < history.length) :
    RemovesAt (history ++ [e]) t h n ↔ RemovesAt history t h n := by
  rw [RemovesAt, RemovesAt, List.getElem?_append_left hn,
    List.take_append_of_le_length (Nat.le_of_lt hn)]

theorem removesAt_concat_length :
    RemovesAt (history ++ [e]) t h history.length ↔
      e = .unsubscribe t h ∧ Subscribed history t h := by
  simp [RemovesAt]

theorem RemovesAt.lt_length (hremoves : RemovesAt history t h n) : n < history.length :=
  (List.getElem?_eq_some_iff.mp hremoves.1).1

theorem JoinsAt.lt_length (hjoins : JoinsAt history t h n) : n < history.length :=
  (List.getElem?_eq_some_iff.mp hjoins.subscribes).1

/-- A handler that has joined stays where it is until it is removed. -/
theorem JoinsAt.concat (hjoins : JoinsAt history t h n) (he : e ≠ .unsubscribe t h) :
    JoinsAt (history ++ [e]) t h n := by
  have hn := hjoins.lt_length
  refine ⟨?_, fun k hk hremoves => ?_, fun k hk hsubscribes => ?_⟩
  · rw [List.getElem?_append_left hn]
    exact hjoins.subscribes
  · have hlength := hremoves.lt_length
    rw [List.length_append, List.length_singleton] at hlength
    rcases Nat.lt_or_eq_of_le (Nat.lt_succ_iff.mp hlength) with hlt | rfl
    · exact hjoins.stays k hk ((removesAt_concat_of_lt hlt).mp hremoves)
    · exact he (removesAt_concat_length.mp hremoves).1
  · rw [List.getElem?_append_left (Nat.lt_trans hk hn)] at hsubscribes
    obtain ⟨m, hkm, hmn, hremoves⟩ := hjoins.first k hk hsubscribes
    exact ⟨m, hkm, hmn, (removesAt_concat_of_lt (Nat.lt_trans hmn hn)).mpr hremoves⟩

/-- A handler that was subscribed and is so no longer has been removed since. -/
theorem exists_removesAt (hnot : ¬ Subscribed history t h)
    (hsubscribes : history[k]? = some (.subscribe t h)) :
    ∃ m, k < m ∧ m < history.length ∧ RemovesAt history t h m := by
  induction history using List.reverseRecOn with
  | nil => simp at hsubscribes
  | append_singleton history e ih =>
      rw [subscribed_concat] at hnot
      have hk := (List.getElem?_eq_some_iff.mp hsubscribes).1
      rw [List.length_append, List.length_singleton] at hk ⊢
      rcases Nat.lt_or_eq_of_le (Nat.lt_succ_iff.mp hk) with hlt | rfl
      · rw [List.getElem?_append_left hlt] at hsubscribes
        by_cases hsub : Subscribed history t h
        · -- it was subscribed just before, so that the last call has removed it
          have hconcerns : e.concerns t h = true := by
            by_contra hnone
            exact hnot (by rwa [if_neg hnone])
          rw [if_pos hconcerns] at hnot
          have he := (Edit.concerns_iff.mp hconcerns).resolve_left hnot
          exact ⟨history.length, hlt, Nat.lt_succ_self _, removesAt_concat_length.mpr ⟨he, hsub⟩⟩
        · obtain ⟨m, hkm, hm, hremoves⟩ := ih hsub hsubscribes
          exact ⟨m, hkm, Nat.lt_succ_of_lt hm, (removesAt_concat_of_lt hm).mpr hremoves⟩
      · have he : e = .subscribe t h := by simpa using hsubscribes
        rw [if_pos (Edit.concerns_iff.mpr (Or.inl he))] at hnot
        exact absurd he hnot

/-- A handler that is not subscribed joins when it is. -/
theorem joinsAt_length (hnot : ¬ Subscribed history t h) :
    JoinsAt (history ++ [.subscribe t h]) t h history.length := by
  refine ⟨by simp, fun k hk hremoves => ?_, fun k hk hsubscribes => ?_⟩
  · have hlength := hremoves.lt_length
    rw [List.length_append, List.length_singleton] at hlength
    omega
  · rw [List.getElem?_append_left hk] at hsubscribes
    obtain ⟨m, hkm, hm, hremoves⟩ := exists_removesAt hnot hsubscribes
    exact ⟨m, hkm, hm, (removesAt_concat_of_lt hm).mpr hremoves⟩

/-- A handler joins at one place only. -/
theorem JoinsAt.unique (hjoins : JoinsAt history t h n) (hjoins' : JoinsAt history t h k) :
    n = k := by
  rcases Nat.lt_trichotomy n k with hlt | heq | hlt
  · obtain ⟨m, hnm, _, hremoves⟩ := hjoins'.first n hlt hjoins.subscribes
    exact absurd hremoves (hjoins.stays m hnm)
  · exact heq
  · obtain ⟨m, hkm, _, hremoves⟩ := hjoins.first k hlt hjoins'.subscribes
    exact absurd hremoves (hjoins'.stays m hkm)

end Reading

/-! ## The lists -/

/-- A list holds what its history says, in the order in which its handlers joined. -/
structure Reads (history : List (Edit Handler)) (t : EventType) (list : List Handler) : Prop where
  nodup : list.Nodup
  mem : ∀ h, h ∈ list ↔ Subscribed history t h
  joined : ∀ h ∈ list, ∃! n, JoinsAt history t h n
  ordered : list.Pairwise (JoinedBefore history t)

section Lists

variable {history : List (Edit Handler)} {e : Edit Handler} {t : EventType} {h : Handler}
  {list list' : List Handler}

theorem JoinedBefore.concat {h' : Handler} (hbefore : JoinedBefore history t h h')
    (he : e ≠ .unsubscribe t h) (he' : e ≠ .unsubscribe t h') :
    JoinedBefore (history ++ [e]) t h h' := by
  obtain ⟨n, n', hn, hn', hlt⟩ := hbefore
  exact ⟨n, n', hn.concat he, hn'.concat he', hlt⟩

/-- Handlers may leave a list, and those that are not removed stay as they are. -/
theorem Reads.sublist (hreads : Reads history t list) (hsub : list'.Sublist list)
    (hkept : ∀ h ∈ list', e ≠ .unsubscribe t h)
    (hmem : ∀ h, h ∈ list' ↔ Subscribed (history ++ [e]) t h) :
    Reads (history ++ [e]) t list' where
  nodup := hreads.nodup.sublist hsub
  mem := hmem
  joined := by
    intro h hlist
    obtain ⟨n, hjoins, _⟩ := hreads.joined h (hsub.subset hlist)
    have hjoined := hjoins.concat (hkept h hlist)
    exact ⟨n, hjoined, fun k hk => hk.unique hjoined⟩
  ordered := by
    refine (hreads.ordered.sublist hsub).imp_of_mem fun hlist hlist' hbefore => ?_
    exact hbefore.concat (hkept _ hlist) (hkept _ hlist')

/-- A handler that joins stands at the end. -/
theorem Reads.join (hreads : Reads history t list) (hnot : h ∉ list) :
    Reads (history ++ [.subscribe t h]) t (list ++ [h]) := by
  have hjoins : JoinsAt (history ++ [.subscribe t h]) t h history.length :=
    joinsAt_length fun hsub => hnot ((hreads.mem h).mpr hsub)
  have hkept : ∀ h', Edit.subscribe t h ≠ .unsubscribe t h' := fun h' heq => by cases heq
  refine ⟨?_, fun h' => ?_, fun h' hlist => ?_, ?_⟩
  · refine List.nodup_append.mpr ⟨hreads.nodup, by simp, fun h' hlist h'' hlast heq => ?_⟩
    rw [heq, List.mem_singleton.mp hlast] at hlist
    exact hnot hlist
  · rw [subscribed_subscribe, List.mem_append, List.mem_singleton, hreads.mem, or_comm]
  · rcases List.mem_append.mp hlist with hlist | hlist
    · obtain ⟨n, hold, _⟩ := hreads.joined h' hlist
      have hjoined := hold.concat (hkept h')
      exact ⟨n, hjoined, fun k hk => hk.unique hjoined⟩
    · rw [List.mem_singleton.mp hlist]
      exact ⟨_, hjoins, fun k hk => hk.unique hjoins⟩
  · refine List.pairwise_append.mpr ⟨?_, List.pairwise_singleton _ _, fun h' hlist h'' hlast => ?_⟩
    · exact hreads.ordered.imp fun hbefore => hbefore.concat (hkept _) (hkept _)
    · obtain ⟨n, hjoined, _⟩ := hreads.joined h' hlist
      rw [List.mem_singleton.mp hlast]
      exact ⟨n, _, hjoined.concat (hkept h'), hjoins, hjoined.lt_length⟩

/-- One more call leaves every list as its history says. -/
theorem Reads.apply {r : Registry Handler} (hreads : ∀ t, Reads history t (r.handlers t))
    (e : Edit Handler) (t : EventType) :
    Reads (history ++ [e]) t ((r.apply e).handlers t) := by
  by_cases ht : e.type = t
  · subst ht
    cases e with
    | subscribe t h =>
        have hlist := hreads t
        rw [Registry.apply, Edit.type, handlers_subscribe]
        by_cases hmem : h ∈ r.handlers t
        · -- a handler that is there already keeps its place
          rw [if_neg fun hand => hand.2 hmem]
          refine hlist.sublist (List.Sublist.refl _) (fun h' _ heq => by cases heq) fun h' => ?_
          rw [subscribed_subscribe, ← hlist.mem]
          exact ⟨Or.inr, fun hor => hor.elim (fun heq => heq ▸ hmem) id⟩
        · rw [if_pos ⟨rfl, hmem⟩]
          exact hlist.join hmem
    | unsubscribe t h =>
        have hlist := hreads t
        rw [Registry.apply, Edit.type, handlers_unsubscribe, if_pos rfl]
        refine hlist.sublist List.filter_sublist (fun h' hmem heq => ?_) fun h' => ?_
        · obtain ⟨_, rfl⟩ := Edit.unsubscribe.inj heq
          simp at hmem
        · rw [subscribed_unsubscribe, ← hlist.mem, List.mem_filter, decide_eq_true_eq, and_comm]
  · rw [handlers_apply_of_ne r t ht]
    refine (hreads t).sublist (List.Sublist.refl _) (fun h _ heq => ht (by rw [heq]; rfl))
      fun h => ?_
    rw [subscribed_of_type_ne ht, (hreads t).mem]

/-- After any calls, every list is as the history of the calls says. -/
theorem reads_replay (history : List (Edit Handler)) (t : EventType) :
    Reads history t ((replay {} history).handlers t) := by
  induction history using List.reverseRecOn generalizing t with
  | nil =>
      have hempty : (replay {} ([] : List (Edit Handler))).handlers t = [] := rfl
      rw [hempty]
      refine ⟨List.nodup_nil, fun h => ?_, List.forall_mem_nil _, List.Pairwise.nil⟩
      simp [Subscribed, latest?]
  | append_singleton history e ih =>
      rw [replay_concat]
      exact Reads.apply ih e t

end Lists

end EventFeed.Registry
