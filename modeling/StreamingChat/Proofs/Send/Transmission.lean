import StreamingChat.Proofs.Http.Exchange
import StreamingChat.Proofs.Send.Meaning

/-!
# The reply that an exchange brings

What is reported of a request from its beginning to its end is a reply, with requests for
connections before it. A send passes over these, so that a transmission does to a send what the
reply of its exchange does. The answer that is left is determined by that reply, and by nothing that
other exchanges have brought.
-/

namespace StreamingChat

open Http

namespace Reply

/-- The chunks that some reports tell of, and the failure that cuts them off. -/
def arrivals : List Report → List (List UInt8) × Option SendFailure
  | .arrived (.chunk bytes) :: rest => (bytes :: (arrivals rest).1, (arrivals rest).2)
  | .arrived (.broken failure) :: _ => ([], some failure)
  | _ => ([], none)

def ofReports : List Report → Reply
  | .connect _ :: rest => ofReports rest
  | .answered (.error failure) :: _ => .failed failure
  | .answered (.ok true) :: rest => .body (arrivals rest).1 (arrivals rest).2
  | _ => .noBody

/-- The answer that a reply leaves. -/
def answer (reply : Reply) (flushes : Bool) (id : MessageId) (now : Time.Timestamp) : Message :=
  let text := Text.Utf8.dropMark (Text.Utf8.characters reply.bytes)
  let readings := (reply.linesOf flushes text).map EventLine.read
  Message.answer id now readings (reply.failureAfter? readings)

theorem arrivals_of_told {start final : Stage} {reports : List Report}
    (told : Told start reports final) (streams : start = .streaming) (ends : final = .over) :
    reports = ((arrivals reports).1.map fun chunk => .arrived (.chunk chunk)) ++
      [.arrived (lastArrival (arrivals reports).2)] := by
  induction told with
  | nil stage => cases streams.symm.trans ends
  | connect request rest ih => cases streams
  | refused failure rest ih => cases streams
  | empty rest ih => cases streams
  | opened rest ih => cases streams
  | chunk bytes rest ih =>
      have later := ih rfl ends
      rw [arrivals, List.map_cons, List.cons_append, ← later]
  | broken failure rest ih =>
      subst ends
      rw [rest.eq_nil_of_over]
      rfl
  | ended rest ih =>
      subst ends
      rw [rest.eq_nil_of_over]
      rfl

/-- Apart from the requests for connections, what is reported of a request is its reply. -/
theorem reports_ofReports {start final : Stage} {reports : List Report}
    (told : Told start reports final) (waits : start = .waiting) (ends : final = .over) :
    (ofReports reports).reports = reports.filter fun report => report.request?.isNone := by
  induction told with
  | nil stage => cases waits.symm.trans ends
  | connect request rest ih => exact ih rfl ends
  | refused failure rest ih =>
      subst ends
      rw [rest.eq_nil_of_over]
      rfl
  | empty rest ih =>
      subst ends
      rw [rest.eq_nil_of_over]
      rfl
  | opened rest ih =>
      have noConnect := List.filterMap_eq_nil_iff.mp (rest.requests_eq_nil (by simp))
      rw [List.filter_cons_of_pos rfl, List.filter_eq_self.mpr]
      · exact congrArg (List.cons _) (arrivals_of_told rest rfl ends).symm
      · intro report member
        rw [noConnect report member]
        rfl
  | chunk bytes rest ih => cases waits
  | broken failure rest ih => cases waits
  | ended rest ih => cases waits

end Reply

namespace Send

theorem takeIn_of_request? (send : Send) {report : Report} {request : Http.Request}
    (asks : report.request? = some request) : send.takeIn report = (send, []) := by
  cases report with
  | connect request => rfl
  | answered answer => cases asks
  | arrived arrival => cases asks

/-- A send passes over requests for connections. -/
theorem takeInAll_filter (send : Send) (reports : List Report) :
    send.takeInAll (reports.filter fun report => report.request?.isNone) =
      send.takeInAll reports := by
  induction reports generalizing send with
  | nil => rfl
  | cons report rest ih =>
      cases asks : report.request? with
      | none =>
          rw [List.filter_cons_of_pos (by simp [asks]), takeInAll_cons, takeInAll_cons, ih]
      | some request =>
          rw [List.filter_cons_of_neg (by simp [asks]), takeInAll_cons,
            takeIn_of_request? send asks, after_nil, ih]

theorem takeInAll_of_connects (send : Send) {reports : List Report}
    (connects : ∀ report ∈ reports, ∃ request, report = .connect request) :
    send.takeInAll reports = (send, []) := by
  have nothing : (reports.filter fun report => report.request?.isNone) = [] := by
    apply List.filter_eq_nil_iff.mpr
    intro report member
    rcases connects report member with ⟨request, rfl⟩
    simp [Report.request?]
  rw [← takeInAll_filter, nothing]
  rfl

theorem target_takeInAll (send : Send) (reports : List Report) :
    (send.takeInAll reports).1.target = send.target := by
  induction reports generalizing send with
  | nil => rfl
  | cons report rest ih => exact (ih _).trans (target_takeIn send report)

/-- A send that reports have brought to its end is told of no more requests for connections. -/
theorem requests_eq_nil_of_over {send : Send} (unfinished : send.outcome? = none)
    {start middle final : Stage} {reports later : List Report} (told : Told start reports middle)
    (toldLater : Told middle later final) {outcome : SendOutcome}
    (isOver : (send.takeInAll reports).1.outcome? = some outcome) :
    later.filterMap Report.request? = [] := by
  apply toldLater.requests_eq_nil
  intro waits
  rw [takeInAll_of_connects send (told.connects_of_waiting waits).2, unfinished] at isOver
  cases isOver

/-- What is reported of a request does to a send what its reply does. -/
theorem takeInAll_course (send : Send) (request : Http.Request) (network : Network)
    (batches : List (List NetworkEvent)) :
    let told := Exchange.course request network batches
    send.takeInAll told = send.takeInAll (Reply.ofReports told).reports := by
  intro told
  rw [Reply.reports_ofReports (Exchange.told_course request network batches) rfl rfl,
    takeInAll_filter]

end Send

namespace Transmission

/-- What an exchange reports of some events is passed on to the send as a whole. -/
theorem receiveAll_eq (send : Send) (exchange : Exchange) (events : List NetworkEvent) :
    (⟨send, exchange⟩ : Transmission).receiveAll events =
      advance send (exchange.receiveAll events) := by
  induction events generalizing send exchange with
  | nil => rfl
  | cons event rest ih =>
      rw [receiveAll, Exchange.receiveAll, receive]
      dsimp only
      have requests : (advance send (exchange.receive event)).requests =
          (exchange.receive event).2.filterMap Report.request? := rfl
      rw [requests]
      split
      · rename_i noRequest
        have later := ih (send.takeInAll (exchange.receive event).2).1 (exchange.receive event).1
        rw [List.isEmpty_iff] at noRequest
        simp only [advance] at later ⊢
        rw [later, Send.takeInAll_append, List.filterMap_append, noRequest]
        rfl
      · rfl

end Transmission

end StreamingChat
