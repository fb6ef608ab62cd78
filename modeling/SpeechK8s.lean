import SpeechK8s.Lib.Script
import SpeechK8s.Cluster.Namespace
import SpeechK8s.Cluster.Stop
import SpeechK8s.Cluster.Start
import SpeechK8s.Cluster.RoundTrip
import SpeechK8s.Cluster.Poweroff
import SpeechK8s.Cluster.Restore
import SpeechK8s.Cluster.Quiesce
import SpeechK8s.Cluster.History
import SpeechK8s.Cluster.GpuGate
import SpeechK8s.Lib.Riff
import SpeechK8s.Tts.Pcm
import SpeechK8s.Tts.Speech
import SpeechK8s.Lib.Machine
import SpeechK8s.Tts.Streams
import SpeechK8s.Lib.Utf8
import SpeechK8s.Mcp.Config
import SpeechK8s.Mcp.Search
import SpeechK8s.Mcp.Server
import SpeechK8s.Demo.Proxy
import SpeechK8s.Mcp.Wire
import SpeechK8s.Demo.Tools
import SpeechK8s.Demo.Relay
import SpeechK8s.Lib.Lines
import SpeechK8s.Demo.Lines
import SpeechK8s.Tts.Quantise
import SpeechK8s.Tts.Rates
import SpeechK8s.Tts.Voices
import SpeechK8s.Mcp.Snippet
import SpeechK8s.Lib.Url
import SpeechK8s.Mcp.Source
import SpeechK8s.Demo.Classify
import SpeechK8s.Lib.Binary64
import SpeechK8s.Demo.Schema
import SpeechK8s.Lib.Handler
import SpeechK8s.Lib.UrlParts
import SpeechK8s.Demo.Server
import SpeechK8s.Demo.Outgoing
import SpeechK8s.Demo.Handshake
import SpeechK8s.Demo.Broker
import SpeechK8s.Demo.Connect
import SpeechK8s.Demo.Conversation
import SpeechK8s.Lib.Numeral
import SpeechK8s.Demo.Panel
import SpeechK8s.Demo.Reload
import SpeechK8s.Lib.Timers
import SpeechK8s.Lib.Ledger
import SpeechK8s.Demo.Upkeep
import SpeechK8s.Cluster.Idle
import SpeechK8s.Cluster.Deploy
import SpeechK8s.Cluster.Install
import SpeechK8s.Cluster.Images
import SpeechK8s.Cluster.Supply
import SpeechK8s.Demo.Deployment
import SpeechK8s.Demo.IceServers
import SpeechK8s.Demo.WebSearch
