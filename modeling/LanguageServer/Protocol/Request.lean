import LanguageServer.Protocol.Document

/-!
# Parts of requests

Fields that the parameters of many requests take in.
-/

namespace LanguageServer

open Json

def progressToken : Decoder Unit :=
  .oneOf "NumberOrString" [fun value => (fun _ => ()) <$> Decoder.int32 value,
    fun value => (fun _ => ()) <$> Decoder.string value]

def workDone : Fields Unit := .ignored (.optional "workDoneToken" progressToken)

def partialResult : Fields Unit := .ignored (.optional "partialResultToken" progressToken)

def placeFields : Fields Unit :=
  .all [.ignored documentField, .ignored (.required "position" Position.decode)]

end LanguageServer
