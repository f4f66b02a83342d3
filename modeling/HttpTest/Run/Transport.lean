import HttpTest.Run.Failure
import HttpTest.Config.Basic
import HttpTest.Http.Request
import HttpTest.Http.Response
import HttpTest.Http.HeaderSyntax
import HttpTest.Http.Url

/-!
# Transports

A transport answers requests. What it answers may depend on the requests it was handed before, and
on nothing else. Where no transport is installed a request goes to the network, which here rejects
requests that cannot be sent and reaches no service.
-/

namespace HttpTest

abbrev Reply := Except TransportError Response

/-- A transport, as its answer to a request after the earlier ones it was handed. -/
structure Transport where
  answer : (earlier : List Request) → Request → Reply

namespace Transport

def ofFunction (answer : Request → Reply) : Transport := ⟨fun _ request => answer request⟩

/-- Answers with the headers and the body of the request. -/
def echo : Transport := ofFunction fun request => .ok ⟨200, request.headers, request.body⟩

def respond (response : Response) : Transport := ofFunction fun _ => .ok response

/-- Answers with one response after the other, until there are none left. -/
def sequence (responses : List Response) : Transport :=
  ⟨fun earlier _ =>
    match responses[earlier.length]? with
    | some response => .ok response
    | none => .error (.request "exhausted")⟩

def failing (error : TransportError) : Transport := ofFunction fun _ => .error error

end Transport

/-- A transport that is in use, with the requests it was handed so far. -/
structure Connection where
  transport : Transport
  handed : List Request

namespace Connection

def fresh (transport : Transport) : Connection := ⟨transport, []⟩

def reply (connection : Connection) (request : Request) : Reply :=
  connection.transport.answer connection.handed request

def after (connection : Connection) (request : Request) : Connection :=
  { connection with handed := connection.handed ++ [request] }

end Connection

def Network.reply (settings : HttpSettings) (request : Request) : Reply :=
  if !settings.userAgent.toList.all Header.isValueChar then .error (.client "builder error")
  else match Url.fault? request.url with
    | some fault => .error (.invalidUrl request.url fault.message)
    | none =>
      match request.headers.findSome? fun header =>
        header.fault?.map fun fault => (header.1, fault) with
      | some (name, fault) => .error (.invalidHeader name fault.message)
      | none => .error (.request ("error sending request for url (" ++ request.url ++ ")"))

end HttpTest
