import Alerting.Proofs.Dispatcher.Course

/-!
# Ledgers

What a channel holds, told from outside: the calls that were accepted, in their order, and those of
them that were served. The queue is what the second list lacks of the first one, even where callers
have given up and the queue no longer says whose request it holds.
-/

namespace Alerting

namespace Channel

variable {α : Type} {ask : α → Request} {requests : List Request} {accepted served : List Nat}
  {c c' : Channel α}

/-- An entry of a queue is the request of this call. The call may have been given up. -/
def IsOf (ask : α → Request) (requests : List Request) (entry : Option Nat × α) (call : Nat) : Prop :=
  (∀ caller, entry.1 = some caller → caller = call) ∧ requests[call]? = some (ask entry.2)

/-- Whoever waits is not accepted yet, and the queue holds the requests that are accepted and not
served. -/
structure Follows (ask : α → Request) (requests : List Request) (accepted served : List Nat)
    (c : Channel α) : Prop where
  waiting : ∀ w ∈ c.waiting, requests[w.1]? = some (ask w.2)
  once : (c.waiting.map (·.1) ++ accepted).Nodup
  queue : ∃ queued, accepted = served ++ queued ∧ List.Forall₂ (IsOf ask requests) c.queue queued

theorem follows_new : ({} : Channel α).Follows ask [] [] [] where
  waiting := fun _ hw => absurd hw List.not_mem_nil
  once := List.nodup_nil
  queue := ⟨[], rfl, .nil⟩

theorem IsOf.append {entry : Option Nat × α} {call : Nat} (more : List Request)
    (h : IsOf ask requests entry call) : IsOf ask (requests ++ more) entry call :=
  ⟨h.1, Action.getElem?_requests_append h.2 more⟩

theorem Follows.append (more : List Request) (h : c.Follows ask requests accepted served) :
    c.Follows ask (requests ++ more) accepted served where
  waiting := fun w hw => Action.getElem?_requests_append (h.waiting w hw) more
  once := h.once
  queue := by
    obtain ⟨queued, haccepted, hqueue⟩ := h.queue
    exact ⟨queued, haccepted, hqueue.imp fun _ _ => IsOf.append more⟩

theorem Follows.of_eq (h : c.Follows ask requests accepted served) (hwaiting : c'.waiting = c.waiting)
    (hqueue : c'.queue = c.queue) : c'.Follows ask requests accepted served where
  waiting := hwaiting ▸ h.waiting
  once := hwaiting ▸ h.once
  queue := hqueue ▸ h.queue

theorem Follows.join (x : α) (h : c.Follows ask requests accepted served)
    (hknown : ∀ call ∈ accepted, call < requests.length) :
    (c.join requests.length x).Follows ask (requests ++ [ask x]) accepted served where
  waiting := by
    intro w hw
    rcases List.mem_append.1 hw with hw | hw
    · exact Action.getElem?_requests_append (h.waiting w hw) _
    · obtain rfl := List.mem_singleton.1 hw
      exact List.getElem?_concat_length
  once := by
    -- a call that waits or is accepted was begun before, so its number is smaller
    have hnew : requests.length ∉ c.waiting.map (·.1) ++ accepted := by
      intro hmem
      rcases List.mem_append.1 hmem with hmem | hmem
      · obtain ⟨w, hw, hcall⟩ := List.mem_map.1 hmem
        have hlt := (List.getElem?_eq_some_iff.1 (h.waiting w hw)).1
        omega
      · exact absurd (hknown _ hmem) (Nat.lt_irrefl _)
    rw [Channel.join, List.map_append, List.append_assoc]
    exact (List.nodup_middle.2 (List.nodup_cons.2 ⟨hnew, h.once⟩))
  queue := (h.append [ask x]).queue

theorem Follows.accept {capacity call : Nat} (h : c.Follows ask requests accepted served)
    (haccept : c.accept? capacity call = some c') :
    (∃ x, requests[call]? = some (ask x)) ∧
      c'.Follows ask requests (accepted ++ [call]) served := by
  obtain ⟨x, hmem, rfl⟩ := exists_of_accept? haccept
  have hask := h.waiting _ hmem
  refine ⟨⟨x, hask⟩, ?_, ?_, ?_⟩
  · exact fun w hw => h.waiting w (List.mem_of_mem_filter hw)
  · have hcall : call ∈ c.waiting.map (·.1) := List.mem_map_of_mem hmem
    have hfresh : call ∉ (c.waiting.filter fun w => w.1 ≠ call).map (·.1) ++ accepted := by
      intro hin
      rcases List.mem_append.1 hin with hin | hin
      · obtain ⟨w, hw, rfl⟩ := List.mem_map.1 hin
        simp at hw
      · exact (List.disjoint_of_nodup_append h.once) hcall hin
    have hsub : ((c.waiting.filter fun w => w.1 ≠ call).map (·.1) ++ accepted).Sublist
        (c.waiting.map (·.1) ++ accepted) :=
      (List.filter_sublist.map _).append_right accepted
    rw [← List.append_assoc, ← List.concat_eq_append]
    exact (h.once.sublist hsub).concat hfresh
  · obtain ⟨queued, haccepted, hqueue⟩ := h.queue
    refine ⟨queued ++ [call], by rw [haccepted, List.append_assoc], ?_⟩
    refine List.rel_append hqueue (.cons ⟨?_, hask⟩ .nil)
    intro caller hcaller
    exact (Option.some.inj hcaller).symm

theorem Follows.abandon (call : Nat) (h : c.Follows ask requests accepted served) :
    (c.abandon call).Follows ask requests accepted served where
  waiting := fun w hw => h.waiting w (List.mem_of_mem_filter hw)
  once := h.once.sublist ((List.filter_sublist.map _).append_right accepted)
  queue := by
    obtain ⟨queued, haccepted, hqueue⟩ := h.queue
    refine ⟨queued, haccepted, List.forall₂_map_left_iff.2 (hqueue.imp ?_)⟩
    intro entry call' hentry
    split
    · exact ⟨nofun, hentry.2⟩
    · exact hentry

/-- The oldest request is that of the oldest call that is accepted and not served. -/
theorem Follows.take {caller : Option Nat} {x : α} {rest : List (Option Nat × α)}
    (h : c.Follows ask requests accepted served) (hqueue : c.queue = (caller, x) :: rest) :
    ∃ call, IsOf ask requests (caller, x) call ∧ call ∉ served ∧
      { c with queue := rest }.Follows ask requests accepted (served ++ [call]) := by
  obtain ⟨queued, haccepted, hentries⟩ := h.queue
  rw [hqueue] at hentries
  obtain ⟨call, queued, hcall, hrest, rfl⟩ := List.forall₂_cons_left_iff.1 hentries
  refine ⟨call, hcall, ?_, h.waiting, h.once, queued, ?_, hrest⟩
  · have hnodup := haccepted ▸ (List.nodup_append'.1 h.once).2.1
    exact fun hin => (List.disjoint_of_nodup_append hnodup) hin List.mem_cons_self
  · rw [haccepted, List.append_assoc, List.singleton_append]

end Channel

end Alerting
