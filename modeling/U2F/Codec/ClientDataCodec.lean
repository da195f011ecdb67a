/-
**Client data.**

`ClientDataCodec.java` puts together the client data of a request.

Main definitions:

* `ClientDataCodec.clientData` — the members; `ClientDataCodec.encodeClientData` — the text.
-/

import U2F.Java.Platform

set_option relaxedAutoImplicit false
set_option autoImplicit false

namespace U2F

namespace ClientDataCodec

def REQUEST_TYPE_REGISTER : String := "navigator.id.finishEnrollment"

def REQUEST_TYPE_AUTHENTICATE : String := "navigator.id.getAssertion"

def JSON_PROPERTY_REQUEST_TYPE : String := "typ"

def JSON_PROPERTY_SERVER_CHALLENGE_BASE64 : String := "challenge"

def JSON_PROPERTY_SERVER_ORIGIN : String := "origin"

def JSON_PROPERTY_CHANNEL_ID : String := "cid_pubkey"

/-- The members of the client data, in the order in which they are added. -/
def clientData (requestType serverChallengeBase64 origin : String) (jsonChannelId : JsonElement) :
    JsonObject :=
  [(JSON_PROPERTY_REQUEST_TYPE, .primitive requestType),
    (JSON_PROPERTY_SERVER_CHALLENGE_BASE64, .primitive serverChallengeBase64),
    (JSON_PROPERTY_CHANNEL_ID, jsonChannelId),
    (JSON_PROPERTY_SERVER_ORIGIN, .primitive origin)]

def encodeClientData {Cert : Type} (P : Platform Cert)
    (requestType serverChallengeBase64 origin : String) (jsonChannelId : JsonElement) : String :=
  P.jsonToString (.object (clientData requestType serverChallengeBase64 origin jsonChannelId))

end ClientDataCodec

end U2F
