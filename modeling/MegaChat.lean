import MegaChat.Chatd.Idx
import MegaChat.Chatd.Messages
import MegaChat.Chatd.Lookup
import MegaChat.Chatd.Insert
import MegaChat.Chatd.History
import MegaChat.Retry.Controller
import MegaChat.Retry.Wait
import MegaChat.Retry.Timers
import MegaChat.Retry.Budget
import MegaChat.Retry.Lifecycle
import MegaChat.Retry.Generations
import MegaChat.Retry.Progress
import MegaChat.Retry.Backoff
import MegaChat.Retry.Timeout
