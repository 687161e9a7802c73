import TubMonitor.Proofs.Replies
import TubMonitor.Proofs.Store.Requests

/-!
# Leak records stay numbered

No request, whether it comes through or not, takes their ids out of their order.
-/

namespace TubMonitor

namespace Store

theorem answer_records_numbered {s : Store} (now : Time.Instant) (request : Request)
    (h : s.recordSheet.Numbered) : (s.answer now request).2.recordSheet.Numbered := by
  have hApart (hOther : request.source ≠ .leak) :
      (s.answer now request).2.recordSheet.Numbered := by
    rw [recordSheet_only (answer_apart s now hOther)]
    exact h
  cases request with
  | latestRecord =>
      rw [answer_latestRecord now h]
      exact h
  | createRecord detected =>
      rcases answer_createRecord s now detected with ⟨row, hId, _, _, hSheet⟩
      rw [hSheet]
      exact Sheet.push_numbered h hId
  | clearRecord id =>
      rw [(answer_clearRecord now id h).2]
      exact Sheet.amend_numbered h id (id_cleared now)
  | _ => exact hApart Notice.Source.noConfusion

end Store

namespace Monitor

theorem answer_store_cases (o : Outside) (now : Nat) (call : Call) :
    (o.answer now call).2.store = o.store ∨
      exists request, call = .store request ∧
        (o.answer now call).1 = .store (o.store.answer (Time.instantOf now) request).1 ∧
        (o.answer now call).2.store = (o.store.answer (Time.instantOf now) request).2 := by
  rcases answer_cases o now call with
    ⟨_, _, hAnswer⟩ | ⟨_, ⟨_, _, hAnswer⟩ | ⟨request, hCall, hAnswer⟩⟩
  · exact Or.inl (by rw [hAnswer])
  · exact Or.inl (by rw [hAnswer])
  · exact Or.inr ⟨request, hCall, by rw [hAnswer], by rw [hAnswer]⟩

end Monitor
end TubMonitor
