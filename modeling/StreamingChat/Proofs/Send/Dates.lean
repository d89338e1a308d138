import StreamingChat.Proofs.Conversation.Dates
import StreamingChat.Proofs.Send.Steps
import StreamingChat.Send.Fleet

/-!
# Sends at other times

Redating all messages of a conversation commutes with whatever a send does, if the new messages are
given the same time. So the same sends at other times leave the same conversation behind, up to the
times of its messages, and return the same.
-/

namespace StreamingChat

namespace Effect

variable (time : Time.Timestamp) (target : MessageId)

theorem perform_dated (store : Store) (effect : Effect) :
    perform target (store.dated time) effect = (perform target store effect).dated time := by
  cases effect with
  | apply event =>
      rw [perform, perform, Store.applyEvent, Store.applyEvent]
      cases event.change? with
      | none => rfl
      | some change =>
          cases change with
          | content piece => exact Store.update_dated time store target fun _ => rfl
          | log entry => exact Store.update_dated time store target fun _ => rfl
  | fail note => exact Store.update_dated time store target fun _ => rfl
  | log entry => rfl
  | release => exact Store.release_dated time store

theorem performAll_dated (store : Store) (effects : List Effect) :
    performAll target (store.dated time) effects =
      (performAll target store effects).dated time := by
  induction effects generalizing store with
  | nil => rfl
  | cons effect rest ih =>
      have next := ih (perform target store effect)
      rw [← perform_dated] at next
      exact next

end Effect

/-- What comes of a send, as if all messages had been made at some time. -/
def SendResult.dated (time : Time.Timestamp) (result : SendResult) : SendResult :=
  { result with store := result.store.dated time }

namespace Order

variable (time : Time.Timestamp)

theorem send_dated (order : Order) (store : Store) (now : SendTimes) :
    order.send (store.dated time) time = (order.send store now).dated time := by
  rw [send, send, Sender.send, Sender.send]
  cases given : Send.promptOf? order.call.text with
  | none =>
      rw [Sender.attempt_of_blank _ _ _ _ given, Sender.attempt_of_blank _ _ _ _ given]
      rfl
  | some prompt =>
      rcases Bool.eq_false_or_eq_true store.loading with busy | idle
      · have busyDated : (store.dated time).loading = true := busy
        rw [Sender.attempt_of_loading _ _ _ _ given busy,
          Sender.attempt_of_loading _ _ _ _ given busyDated]
        rfl
      · have idleDated : (store.dated time).loading = false := idle
        rw [Sender.attempt_of_idle _ _ _ _ given idle,
          Sender.attempt_of_idle _ _ _ _ given idleDated,
          Store.begun_dated time store prompt order.call.images now]
        dsimp only
        rw [Effect.performAll_dated]
        rfl

theorem series_step (store : Store) (order : Order) (now : SendTimes) :
    series.step store (order, now) =
      ((order.send store now).store, [(order, order.send store now)]) :=
  rfl

theorem series_dated (store : Store) (orders : List (Order × SendTimes)) :
    series.run (store.dated time) (orders.map fun timed => (timed.1, time)) =
      ((series.run store orders).1.dated time,
        (series.run store orders).2.map fun made => (made.1, made.2.dated time)) := by
  induction orders generalizing store with
  | nil => simp
  | cons timed rest ih =>
      rcases timed with ⟨order, now⟩
      rw [List.map_cons, Transducer.run_cons, Transducer.run_cons, series_step, series_step,
        send_dated time order store now]
      simp only [SendResult.dated, ih]
      rfl

theorem series_of_same_orders (store : Store) {first second : List (Order × SendTimes)}
    (same : first.map Prod.fst = second.map Prod.fst) :
    (series.run store first).1.dated time = (series.run store second).1.dated time ∧
      (series.run store first).2.map (fun made => (made.1, made.2.dated time)) =
        (series.run store second).2.map fun made => (made.1, made.2.dated time) := by
  have still : first.map (fun timed => (timed.1, (time : SendTimes))) =
      second.map (fun timed => (timed.1, (time : SendTimes))) := by
    have paired := congrArg (List.map fun order => (order, (time : SendTimes))) same
    rwa [List.map_map, List.map_map] at paired
  have dated := series_dated time store first
  rw [still, series_dated time store second] at dated
  exact Prod.ext_iff.mp dated.symm

end Order

end StreamingChat
