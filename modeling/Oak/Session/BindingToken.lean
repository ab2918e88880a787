import Oak.Session.Attestation

namespace Oak.Session

open Oak.Data

/-! What the attestation binding token says about the assertions exchanged.

The token is the client's assertions followed by the server's, one serialized
entry after the other.  Neither the content of an entry nor the boundary
between the two directions is delimited. -/

namespace BindingToken

def exchangedToken (client server : BTreeMap String Assertion) : Bytes :=
  serializeAssertions client ++ serializeAssertions server

def Determines (client server : BTreeMap String Assertion) : Prop :=
  ∀ otherClient otherServer,
    exchangedToken otherClient otherServer = exchangedToken client server →
    otherClient = client ∧ otherServer = server

def clientExchange (handler : ClientAttestationHandler) (response : AttestResponse) :
    ClientAttestationHandler :=
  (handler.getOutgoingMessage.2.putIncomingMessage response).2

def serverExchange (handler : ServerAttestationHandler) (request : AttestRequest) :
    ServerAttestationHandler :=
  (handler.putIncomingMessage request).2.getOutgoingMessage.2

theorem putIncomingMessage_token (handler : AttestationHandler) (message : AttestMessage) :
    (handler.putIncomingMessage message).2.attestationBindingToken =
      handler.attestationBindingToken ++ serializeAssertions message.assertions := by
  unfold AttestationHandler.putIncomingMessage
  split
  · rfl
  · rfl

theorem putIncomingMessage_bindableAssertions (handler : AttestationHandler)
    (message : AttestMessage) :
    (handler.putIncomingMessage message).2.bindableAssertions = handler.bindableAssertions := by
  unfold AttestationHandler.putIncomingMessage
  split
  · rfl
  · rfl

theorem clientExchange_token (handler : ClientAttestationHandler) (response : AttestResponse) :
    (clientExchange handler response).attestationBindingToken = handler.attestationBindingToken ++
        exchangedToken (AttestationHandler.assertionsOf handler.bindableAssertions)
          response.assertions := by
  rw [clientExchange, putIncomingMessage_token]
  simp [AttestationHandler.getOutgoingMessage, exchangedToken]

theorem serverExchange_token (handler : ServerAttestationHandler) (request : AttestRequest) :
    (serverExchange handler request).attestationBindingToken = handler.attestationBindingToken ++
        exchangedToken request.assertions
          (AttestationHandler.assertionsOf handler.bindableAssertions) := by
  simp [serverExchange, AttestationHandler.getOutgoingMessage, putIncomingMessage_token,
    putIncomingMessage_bindableAssertions, exchangedToken]

theorem serializeAssertions_eq_nil {attestations : BTreeMap String Assertion}
    (nothing : serializeAssertions attestations = []) : attestations = BTreeMap.empty := by
  obtain ⟨entries, sorted⟩ := attestations
  cases entries with
  | nil => rfl
  | cons entry rest => simp [serializeAssertions, serializeAssertion] at nothing

theorem empty_determines : Determines BTreeMap.empty BTreeMap.empty := by
  intro otherClient otherServer same
  obtain ⟨clientNothing, serverNothing⟩ := List.append_eq_nil_iff.mp same
  exact ⟨serializeAssertions_eq_nil clientNothing, serializeAssertions_eq_nil serverNothing⟩

theorem exchangedToken_swap (assertions : BTreeMap String Assertion) :
    exchangedToken BTreeMap.empty assertions = exchangedToken assertions BTreeMap.empty := by
  simp [exchangedToken, serializeAssertions, BTreeMap.empty]

/-- The first entry of the server can be read as part of the content of the
client's last one. -/
theorem exchangedToken_merge {earlier : List (String × Assertion)} {id : String}
    {last : Assertion} {first : String × Assertion} {later : List (String × Assertion)}
    (clientSorted : ((earlier ++ [(id, last)]).map Prod.fst).Pairwise (· < ·))
    (serverSorted : ((first :: later).map Prod.fst).Pairwise (· < ·)) :
    ∃ mergedClient : BTreeMap String Assertion, ∃ shorter : later.map Prod.fst |>.Pairwise (· < ·),
      exchangedToken mergedClient ⟨later, shorter⟩ =
        exchangedToken ⟨earlier ++ [(id, last)], clientSorted⟩ ⟨first :: later, serverSorted⟩ := by
  let merged : Assertion := ⟨last.content ++ [124] ++ Protobuf.encodeString first.1 ++ [58] ++
    first.2.content⟩
  have sameKeys : ((earlier ++ [(id, merged)]).map Prod.fst).Pairwise (· < ·) := by
    simpa using clientSorted
  refine ⟨⟨earlier ++ [(id, merged)], sameKeys⟩, (List.pairwise_cons.mp serverSorted).2, ?_⟩
  simp [exchangedToken, serializeAssertions, serializeAssertion, merged]

theorem not_determines_of_both {client server : BTreeMap String Assertion}
    (clientSends : client.entries ≠ []) (serverSends : server.entries ≠ []) :
    ¬ Determines client server := by
  obtain ⟨entries, clientSorted⟩ := client
  obtain ⟨serverEntries, serverSorted⟩ := server
  obtain ⟨earlier, ⟨id, last⟩, rfl⟩ : ∃ earlier last, entries = earlier ++ [last] :=
    ⟨entries.dropLast, entries.getLast clientSends,
      (List.dropLast_append_getLast clientSends).symm⟩
  cases serverEntries with
  | nil => exact absurd rfl serverSends
  | cons first later =>
    intro determines
    obtain ⟨merged, shorter, same⟩ := exchangedToken_merge clientSorted serverSorted
    have lengths := congrArg (fun map => map.entries.length) (determines _ _ same).2
    simp at lengths

theorem not_determines_of_one {assertions : BTreeMap String Assertion}
    (sends : assertions.entries ≠ []) :
    ¬ Determines assertions BTreeMap.empty ∧ ¬ Determines BTreeMap.empty assertions := by
  constructor
  · intro determines
    have same := (determines _ _ (exchangedToken_swap assertions)).2
    exact sends (congrArg BTreeMap.entries same)
  · intro determines
    have same := (determines _ _ (exchangedToken_swap assertions).symm).1
    exact sends (congrArg BTreeMap.entries same)

/-- Both handlers append the exchanged token to what they hold, and it pins
down the assertions of the two directions exactly when there are none. -/
theorem token_determines_iff (client server : BTreeMap String Assertion) :
    (∀ handler response, (clientExchange handler response).attestationBindingToken =
      handler.attestationBindingToken ++
        exchangedToken (AttestationHandler.assertionsOf handler.bindableAssertions)
          response.assertions) ∧
    (∀ handler request, (serverExchange handler request).attestationBindingToken =
      handler.attestationBindingToken ++ exchangedToken request.assertions
          (AttestationHandler.assertionsOf handler.bindableAssertions)) ∧
    (Determines client server ↔ client = BTreeMap.empty ∧ server = BTreeMap.empty) := by
  refine ⟨clientExchange_token, serverExchange_token, ?_, ?_⟩
  · intro determines
    by_cases clientSends : client.entries = []
    · have clientEmpty : client = BTreeMap.empty := BTreeMap.ext clientSends
      subst clientEmpty
      refine ⟨rfl, BTreeMap.ext ?_⟩
      by_contra serverSends
      exact (not_determines_of_one serverSends).2 determines
    · by_cases serverSends : server.entries = []
      · have serverEmpty : server = BTreeMap.empty := BTreeMap.ext serverSends
        subst serverEmpty
        exact absurd determines (not_determines_of_one clientSends).1
      · exact absurd determines (not_determines_of_both clientSends serverSends)
  · rintro ⟨rfl, rfl⟩
    exact empty_determines

/-- One assertion in each direction has the token of a single assertion of the
client whose content holds the other entry. -/
theorem merged_assertions_collide :
    let client := BTreeMap.singleton "a" (Assertion.mk [120])
    let server := BTreeMap.singleton "b" (Assertion.mk [121])
    let merged := BTreeMap.singleton "a" (Assertion.mk [120, 124, 10, 1, 98, 58, 121])
    exchangedToken merged BTreeMap.empty = exchangedToken client server ∧
      merged.get? "a" ≠ client.get? "a" ∧ server.get? "b" ≠ none := by
  decide +kernel

end BindingToken

end Oak.Session
