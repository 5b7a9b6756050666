/-
# VectorClient.Defaults — limits and defaults of parameters

Durations are in seconds.  `Defaults.table` lists every value by its published
name.
-/
import VectorClient.Value.Basic

namespace VectorClient.Defaults

set_option autoImplicit false

open Number

/-- The version of the client. -/
def version : String := "2.0.0"

def host : String := "localhost"
def port : Int := 19530
/-- Ports are sixteen-bit numbers. -/
def maxPort : Int := 0xFFFF

def connectTimeout : Double := Double.ofInt 10
def keepAliveTimeout : Double := Double.ofInt 20
def idleTimeout : Double := Double.ofInt (24 * 60 * 60)

/-- The partition of rows that name no other. -/
def partition : String := "_default"
def shards : Int := 2

/-- Half a second. -/
def waitInterval : Double := Double.ofFraction false 1 2

def maxLoadInterval : Int := 2
def maxLoadTimeout : Int := 300
def loadTimeout : Double := Double.ofInt 60

def maxFlushInterval : Int := 2
def maxFlushTimeout : Int := 300
def flushTimeout : Double := Double.ofInt 60

def maxIndexInterval : Int := 2
def maxIndexTimeout : Int := 3600
def indexTimeout : Double := Double.ofInt 600

/-! Keys that the server understands in parameter pairs. -/

def fieldKey : String := "anns_field"
def dimensionKey : String := "dim"
def topKKey : String := "topk"
def indexTypeKey : String := "index_type"
def metricTypeKey : String := "metric_type"
def roundDecimalKey : String := "round_decimal"
def paramsKey : String := "params"

/-- The index-specific parameters when none are given: an empty object. -/
def emptyObject : String := "\x7b\x7d"

/-- Distances are left unrounded. -/
def roundDecimal : Int := -1
def maxRoundDecimal : Int := 6

/-- The tag of the target vectors in a search. -/
def placeholderTag : String := "$0"

def table : List (String × Value) :=
  let seconds (n : Int) : Value := .double (Double.ofInt n)
  [("DEFAULT_HOST", .text host),
   ("DEFAULT_PORT", Value.int port),
   ("DEFAULT_CONNECT_TIMEOUT", .double connectTimeout),
   ("DEFAULT_KEEP_ALIVE_TIMEOUT", .double keepAliveTimeout),
   ("DEFAULT_IDLE_TIMEOUT", .double idleTimeout),
   ("DEFAULT_PARTITION", .text partition),
   ("DEFAULT_SHARDS_NUM", Value.int shards),
   ("DEFAULT_WAITING_INTERVAL", .double waitInterval),
   ("MAX_WAITING_LOADING_INTERVAL", seconds maxLoadInterval),
   ("MAX_WAITING_LOADING_TIMEOUT", seconds maxLoadTimeout),
   ("DEFAULT_WAITING_LOADING_TIMEOUT", .double loadTimeout),
   ("MAX_WAITING_FLUSHING_INTERVAL", seconds maxFlushInterval),
   ("MAX_WAITING_FLUSHING_TIMEOUT", seconds maxFlushTimeout),
   ("DEFAULT_WAITING_FLUSHING_TIMEOUT", .double flushTimeout),
   ("MAX_WAITING_INDEX_INTERVAL", seconds maxIndexInterval),
   ("MAX_WAITING_INDEX_TIMEOUT", seconds maxIndexTimeout),
   ("DEFAULT_WAITING_INDEX_TIMEOUT", .double indexTimeout),
   ("VECTOR_FIELD", .text fieldKey),
   ("VECTOR_DIM", .text dimensionKey),
   ("TOP_K", .text topKKey),
   ("INDEX_TYPE", .text indexTypeKey),
   ("METRIC_TYPE", .text metricTypeKey),
   ("ROUND_DECIMAL", .text roundDecimalKey),
   ("PARAMS", .text paramsKey),
   ("DEFAULT_SEARCH_PARAMS", .text emptyObject),
   ("DEFAULT_INDEX_PARAMS", .text emptyObject),
   ("DEFAULT_ROUND_DECIMAL", Value.int roundDecimal),
   ("MAX_ROUND_DECIMAL", Value.int maxRoundDecimal),
   ("PLACEHOLDER_TAG", .text placeholderTag),
   ("VERSION", .text version),
   ("ENUMS", .dict (Member.catalog.map fun (title, words) =>
     (.text title, .list (words.map .text))))]

end VectorClient.Defaults
