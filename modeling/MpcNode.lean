import MpcNode.Types
import MpcNode.Manager
import MpcNode.Poke
import MpcNode.PokeSpec
import MpcNode.Runs
import MpcNode.FreshRuns
import MpcNode.Slots
