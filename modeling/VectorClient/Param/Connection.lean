/-
# VectorClient.Param.Connection — where the server lives

The target of a connection and the settings of its channel.  The channel takes
durations in whole milliseconds, so an infinite duration has no option list;
options that the caller gives follow all derived ones.
-/
import VectorClient.Param.Targets

namespace VectorClient

set_option autoImplicit false

open Number

structure Connection where
  host : String
  port : Int
  connectTimeout : Double
  /-- Without it, idle connections are not probed. -/
  keepAliveTime : Option Double
  keepAliveTimeout : Double
  keepAliveWithoutCalls : Bool
  idleTimeout : Double
  /-- The deadline of every call; without it calls have none. -/
  timeout : Option Double
  secure : Bool
  rootCerts : Option (List UInt8)
  privateKey : Option (List UInt8)
  certificateChain : Option (List UInt8)
  options : List (String × Value)
  deriving Repr

namespace Connection

def blueprint : Blueprint Connection :=
  .plain "ConnectParam"
    (.cons "host" .name (some Defaults.host)
      (.cons "port" (.integer ⟨none, some 0, some Defaults.maxPort⟩) (some Defaults.port)
        (.cons "connect_timeout" (.seconds none) (some Defaults.connectTimeout)
          (.cons "keep_alive_time" (Codec.seconds none).optional (some none)
            (.cons "keep_alive_timeout" (.seconds none) (some Defaults.keepAliveTimeout)
              (.switch "keep_alive_without_calls" false
                (.cons "idle_timeout" (.seconds none) (some Defaults.idleTimeout)
                  (.cons "timeout" (Codec.seconds none).optional (some none)
                    (.switch "secure" false
                      (.cons "root_certs" Codec.bytes.optional (some none)
                        (.cons "private_key" Codec.bytes.optional (some none)
                          (.cons "certificate_chain" Codec.bytes.optional (some none)
                            (.cons "grpc_options" (.many 0 (.pair .text .anything)) (some [])
                              .nil)))))))))))))
    (fun (host, port, connectTimeout, keepAliveTime, keepAliveTimeout, keepAliveWithoutCalls,
        idleTimeout, timeout, secure, rootCerts, privateKey, certificateChain, options, ()) =>
      ⟨host, port, connectTimeout, keepAliveTime, keepAliveTimeout, keepAliveWithoutCalls,
        idleTimeout, timeout, secure, rootCerts, privateKey, certificateChain, options⟩)
    (fun p => (p.host, p.port, p.connectTimeout, p.keepAliveTime, p.keepAliveTimeout,
      p.keepAliveWithoutCalls, p.idleTimeout, p.timeout, p.secure, p.rootCerts, p.privateKey,
      p.certificateChain, p.options, ()))

def target (p : Connection) : String := p.host ++ ":" ++ toString p.port

/-- Whole milliseconds, toward zero, of the product rounded to a double. -/
def milliseconds? (seconds : Double) : Option Int := (seconds.times 1000).truncate?

/-- The options of the channel, or none if a duration is infinite. -/
def channelOptions? (p : Connection) : Option (List (String × Value)) := do
  let keepAliveTimeout ← milliseconds? p.keepAliveTimeout
  let idleTimeout ← milliseconds? p.idleTimeout
  let keepAliveTime ← p.keepAliveTime.mapM milliseconds?
  let probing := keepAliveTime.toList.map fun ms => ("grpc.keepalive_time_ms", Value.int ms)
  return [("grpc.max_receive_message_length", Value.int (-1)),
      ("grpc.keepalive_timeout_ms", Value.int keepAliveTimeout),
      ("grpc.keepalive_permit_without_calls", Value.int p.keepAliveWithoutCalls.toInt),
      ("grpc.client_idle_timeout_ms", Value.int idleTimeout)] ++ probing ++ p.options

end Connection

end VectorClient
