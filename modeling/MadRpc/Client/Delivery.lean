import MadRpc.Client.Client

set_option autoImplicit false

namespace MadRpc

/-- What becomes of a post: neither need the server see it nor the client the answer. -/
inductive Delivery where
  | lost (message : String)
  | unanswered (message : String)
  -- Limit, key or a proxy on the way answers in place of the router.
  | refused (response : HttpResponse) (failing : response.status.isSuccess = false)
  -- The server has answered, but what the client gets of it is cut off or does not decode.
  | spoiled (response : HttpResponse) (unread : ∀ reply, response.body ≠ .collected (.ok reply))
  | answered

namespace Delivery

def arrives : Delivery → Bool
  | unanswered _ | spoiled _ _ | answered => true
  | _ => false

def answers : Delivery → Bool
  | answered => true
  | _ => false

/-- What the client gets in place of the answer. -/
def instead : Delivery → Option HttpResponse
  | refused response _ | spoiled response _ => some response
  | _ => none

def exchange (response : JsonRpcResponse) : Delivery → Exchange
  | lost message | unanswered message => .failed message
  | refused response _ | spoiled response _ => .responded response
  | answered => .responded ⟨⟨200, "OK"⟩, .collected (.ok response.received)⟩

theorem tryCall_success {delivery : Delivery} (answers : delivery.answers = true)
    (id value : Value) :
    MadrpcClient.tryCall (delivery.exchange (.success id value)) = .ok value := by
  cases delivery with
  | answered => cases value <;> rfl
  | _ => cases answers

theorem tryCall_unanswered {delivery : Delivery} (unanswered : delivery.answers = false)
    (response : JsonRpcResponse) :
    ∃ e, MadrpcClient.tryCall (delivery.exchange response) = .error e := by
  cases delivery with
  | refused refusal failing =>
      simp only [exchange, MadrpcClient.tryCall, failing, Bool.not_false, if_true]
      split <;> exact ⟨_, rfl⟩
  | spoiled spoilt unread =>
      simp only [exchange, MadrpcClient.tryCall]
      split
      · split <;> exact ⟨_, rfl⟩
      · split
        next => exact ⟨_, rfl⟩
        next => exact ⟨_, rfl⟩
        next reply body => exact absurd body (unread reply)
  | answered => cases unanswered
  | _ => exact ⟨_, rfl⟩

end Delivery

end MadRpc
