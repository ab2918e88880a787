import Oak.Data.Interleaving
import Oak.Data.Runs
import Oak.Proxy.Receiving
import Oak.Proxy.Sending

namespace Oak.Proxy

open Oak.Data
open Oak.Data.Interleaving (Side)
open ProxyTask

/-! Two proxies with a network between them that does what it likes.

A step of the pair is a step of one proxy on any event: the messages it is
given need not be messages that the other one has sent. -/

structure Proxies (σ τ : Type) where
  client : ProxyTask σ
  server : ProxyTask τ

structure Action where
  side : Side
  io : Io
  event : Event

namespace Proxies

variable {σ τ : Type}

def start (client : σ) (server : τ) : Proxies σ τ :=
  ⟨ProxyTask.start client, ProxyTask.start server⟩

def step (clientOps : ProxySession σ) (serverOps : ProxySession τ) (proxies : Proxies σ τ)
    (action : Action) : Proxies σ τ :=
  match action.side with
  | .client => { proxies with
      client := proxies.client.step clientOps .client action.io action.event }
  | .server => { proxies with
      server := proxies.server.step serverOps .server action.io action.event }

end Proxies

section Direction

variable {σ τ : Type} {sends : ProxySession σ} {receives : ProxySession τ}
  (channel : Channel sends receives)

/-- The sessions that two proxies start with; these frames are on their way. -/
structure Channel.Established (inFlight : List Bytes) (sender : σ) (receiver : τ) : Prop where
  flowing : channel.Flowing sender [] inFlight
  drained : channel.Drained sender
  receiving : channel.Receiving receiver [] [] (channel.log sender [])
  idle : channel.Idle receiver

/-- What the receiver can open in a message was sealed by the sender. -/
def Channel.Authentic (sender : ProxyTask σ) (receiver : ProxyTask τ) (event : Event) : Prop :=
  ∀ data, event = .message (.ok (.binary data)) → data ≠ [] →
    channel.Unforged receiver.session (channel.log sender.session sender.chunks) data

/-- An empty message arrives in its place: with the messages received before it
it is what the sender has sent first, and the sender holds nothing back. -/
def Channel.InSequence (inFlight : List Bytes) (sender : ProxyTask σ) (receiver : ProxyTask τ)
    (event : Event) : Prop :=
  event = .message (.ok (.binary [])) →
    receiver.received ++ [[]] <+: posted inFlight sender ∧ channel.Flushed sender.session

structure Linked (inFlight : List Bytes) (sender : ProxyTask σ) (receiver : ProxyTask τ) :
    Prop where
  sending : Sends channel inFlight [] sender
  receiving : Receives channel (channel.log sender.session sender.chunks) receiver

/-- The writer was shut down after all bytes of the remote application. -/
def Ended (sender : ProxyTask σ) (receiver : ProxyTask τ) : Prop :=
  receiver.shutDown = true →
    sender.applicationDone = true ∧ receiver.written = sender.chunks.flatten

variable {channel} {inFlight : List Bytes} {sender : ProxyTask σ} {receiver : ProxyTask τ}

theorem Channel.Established.linked {sending : σ} {receiving : τ}
    (established : channel.Established inFlight sending receiving) :
    Linked channel inFlight (start sending) (start receiving) where
  sending := Sends.of_flowing List.nil_prefix established.flowing established.drained
    (by simp [posted, start, binaries, halfClose])
  receiving := Receives.of_receiving established.receiving established.idle
    (by simp [start]) rfl

theorem Linked.arrived (linked : Linked channel inFlight sender receiver) :
    receiver.written <+: sender.chunks.flatten :=
  linked.receiving.arrived.trans (channel.carried_prefix linked.sending.sealing)

theorem Linked.sender_step (linked : Linked channel inFlight sender receiver) (role : PeerRole)
    (io : Io) (event : Event) :
    Linked channel inFlight (sender.step sends role io event) receiver := by
  have since : Sends channel inFlight (channel.log sender.session sender.chunks) sender :=
    { linked.sending with grown := List.prefix_rfl }
  exact ⟨linked.sending.step role io event,
    linked.receiving.mono (since.step role io event).grown⟩

variable {event : Event}

theorem Linked.receiver_step (linked : Linked channel inFlight sender receiver) (role : PeerRole)
    (io : Io) (authentic : channel.Authentic sender receiver event) :
    Linked channel inFlight sender (receiver.step receives role io event) :=
  ⟨linked.sending, linked.receiving.step (channel.logged linked.sending.sealing) role io
    fun data read some _ _ => authentic data read some⟩

theorem Ended.sender_step (ended : Ended sender receiver) {role : PeerRole} {io : Io} :
    Ended (sender.step sends role io event) receiver := by
  intro shutDown
  obtain ⟨done, complete⟩ := ended shutDown
  obtain ⟨stillDone, same⟩ := step_input done
  rw [same]
  exact ⟨stillDone, complete⟩

theorem Linked.complete (linked : Linked channel inFlight sender receiver)
    (running : receiver.returned = none) (peerOpen : receiver.peerDone = false)
    (inPlace : receiver.received ++ [[]] <+: posted inFlight sender)
    (flushed : channel.Flushed sender.session) :
    sender.applicationDone = true ∧ receiver.written = sender.chunks.flatten := by
  have done : sender.applicationDone = true :=
    linked.sending.marked (inPlace.subset (by simp))
  obtain ⟨frames, flowing, drained, sent⟩ := linked.sending.flowing (.inr done)
  obtain ⟨accepted, receiving, idle, received⟩ := linked.receiving.receiving running
  simp only [peerOpen, halfClose, Bool.false_eq_true, ↓reduceIte, List.append_nil] at received
  rw [sent, received, done] at inPlace
  have all : accepted = frames := by
    obtain ⟨rest, same⟩ := inPlace
    rw [List.append_assoc, halfClose, if_pos rfl] at same
    rcases List.append_eq_append_iff.mp same with ⟨middle, whole, tail⟩ | ⟨middle, whole, tail⟩
    · cases middle with
      | nil => simpa using whole.symm
      | cons first others =>
        have empty : first = [] := by simpa using (List.cons.inj tail).1.symm
        refine absurd empty (channel.frame_ne_nil flowing first ?_)
        rw [whole]
        simp
    · have none : middle = [] := by
        have lengths := congrArg List.length tail
        simp only [List.length_append] at lengths
        exact List.eq_nil_of_length_eq_zero (by omega)
      rw [whole, none, List.append_nil]
  subst all
  exact ⟨done, channel.complete flowing drained flushed receiving idle⟩

theorem Ended.receiver_step (ended : Ended sender receiver)
    (linked : Linked channel inFlight sender receiver) {role : PeerRole} {io : Io}
    (inSequence : channel.InSequence inFlight sender receiver event) :
    Ended sender (receiver.step receives role io event) := by
  intro shutDown
  cases before : receiver.shutDown with
  | true =>
    have peerDone := linked.receiving.closed before
    rw [step_written fun _ _ => .inr peerDone]
    exact ended before
  | false =>
    obtain ⟨rfl, running, peerOpen⟩ := step_shutDown before shutDown
    obtain ⟨inPlace, flushed⟩ := inSequence rfl
    have empty : ∀ data, Event.message (.ok (.binary [])) = .message (.ok (.binary data)) →
        data = [] ∨ receiver.peerDone = true := by
      intro data same
      cases same
      exact .inl rfl
    rw [step_written empty]
    exact linked.complete running peerOpen inPlace flushed

end Direction

section Both

variable {σ τ : Type} {clientOps : ProxySession σ} {serverOps : ProxySession τ}
  (toServer : Channel clientOps serverOps) (toClient : Channel serverOps clientOps)

/-- Every message that is delivered opens only to what the other proxy has sealed. -/
def Proxies.Authentic (proxies : Proxies σ τ) (action : Action) : Prop :=
  match action.side with
  | .client => toClient.Authentic proxies.server proxies.client action.event
  | .server => toServer.Authentic proxies.client proxies.server action.event

/-- Every empty message that is delivered is the other proxy's half-close, in its place. -/
def Proxies.InSequence (forServer forClient : List Bytes) (proxies : Proxies σ τ)
    (action : Action) : Prop :=
  match action.side with
  | .client => toClient.InSequence forClient proxies.server proxies.client action.event
  | .server => toServer.InSequence forServer proxies.client proxies.server action.event

def Proxies.Linked (forServer forClient : List Bytes) (proxies : Proxies σ τ) : Prop :=
  Oak.Proxy.Linked toServer forServer proxies.client proxies.server ∧
    Oak.Proxy.Linked toClient forClient proxies.server proxies.client

/-- Both directions have ended, if at all, after all bytes. -/
def Proxies.Ended (proxies : Proxies σ τ) : Prop :=
  Oak.Proxy.Ended proxies.client proxies.server ∧ Oak.Proxy.Ended proxies.server proxies.client

/-- What each application was given is a beginning of what the other has sent. -/
def Proxies.Arrived (proxies : Proxies σ τ) : Prop :=
  proxies.server.written <+: proxies.client.chunks.flatten ∧
    proxies.client.written <+: proxies.server.chunks.flatten

variable {toServer toClient} {forServer forClient : List Bytes} {proxies : Proxies σ τ}

theorem Proxies.Linked.step {action : Action}
    (authentic : proxies.Authentic toServer toClient action)
    (linked : proxies.Linked toServer toClient forServer forClient) :
    (proxies.step clientOps serverOps action).Linked toServer toClient forServer forClient := by
  obtain ⟨side, io, event⟩ := action
  cases side with
  | client =>
    exact ⟨linked.1.sender_step .client io event, linked.2.receiver_step .client io authentic⟩
  | server =>
    exact ⟨linked.1.receiver_step .server io authentic, linked.2.sender_step .server io event⟩

theorem Proxies.Ended.step {action : Action}
    (linked : proxies.Linked toServer toClient forServer forClient)
    (inSequence : proxies.InSequence toServer toClient forServer forClient action)
    (ended : proxies.Ended) : (proxies.step clientOps serverOps action).Ended := by
  obtain ⟨side, io, event⟩ := action
  cases side with
  | client => exact ⟨ended.1.sender_step, ended.2.receiver_step linked.2 inSequence⟩
  | server => exact ⟨ended.1.receiver_step linked.1 inSequence, ended.2.sender_step⟩

section Run

variable {client : σ} {server : τ} (serverward : toServer.Established forServer client server)
  (clientward : toClient.Established forClient server client) {actions : List Action}

include serverward clientward

theorem Proxies.run_arrived (authentic : Runs.Along (Proxies.step clientOps serverOps)
      (Proxies.Authentic toServer toClient) (Proxies.start client server) actions) :
    (actions.foldl (Proxies.step clientOps serverOps) (Proxies.start client server)).Arrived := by
  have linked := authentic.invariant (Proxies.Linked toServer toClient forServer forClient)
    (fun _ _ allowed linked => linked.step allowed) ⟨serverward.linked, clientward.linked⟩
  exact ⟨linked.1.arrived, linked.2.arrived⟩

/-- If moreover every empty message is a half-close in its place, a writer is
shut down only after all bytes. -/
theorem Proxies.run_ended (allowed : Runs.Along (Proxies.step clientOps serverOps)
      (fun proxies action => proxies.Authentic toServer toClient action ∧
        proxies.InSequence toServer toClient forServer forClient action)
      (Proxies.start client server) actions) :
    (actions.foldl (Proxies.step clientOps serverOps) (Proxies.start client server)).Ended := by
  have notYet : (Proxies.start client server).Ended :=
    ⟨fun shutDown => by simp [Proxies.start, ProxyTask.start] at shutDown,
      fun shutDown => by simp [Proxies.start, ProxyTask.start] at shutDown⟩
  have both := allowed.invariant
    (fun proxies => proxies.Linked toServer toClient forServer forClient ∧ proxies.Ended)
    (fun _ _ allowed holds => ⟨holds.1.step allowed.1, holds.2.step holds.1 allowed.2⟩)
    ⟨⟨serverward.linked, clientward.linked⟩, notYet⟩
  exact both.2

end Run

end Both

end Oak.Proxy
