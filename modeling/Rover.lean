import Rover.Bench
import Rover.Calibration
import Rover.Demo
import Rover.Games.Solo
import Rover.Proofs.Remote.ServoWords
import Rover.Proofs.Switchboard.Exclusion
import Rover.Remote.Answer
import Rover.Stream
import Rover.Yaml.Reader
import Rover.Yaml.Writer
import Rover.Proofs.Executor.Overdue
import Rover.Proofs.Executor.Printing
import Rover.Proofs.Station.Refusal
import Rover.Proofs.Station.Reconnection
import Rover.Proofs.Station.Heartbeat
import Rover.Proofs.Station.Replaced
import Rover.Proofs.Station.Frames
import Rover.Proofs.Remote.Queue
import Rover.Proofs.Gimbal
import Rover.Proofs.Games.RedLight
import Rover.Proofs.Games.Recognition
import Rover.Proofs.Games.Pursuit
import Rover.Proofs.Games.Obstacles
import Rover.Proofs.Board.Orders
import Rover.Proofs.Pid
import Rover.Proofs.Sonar
import Rover.Proofs.Link.Address
import Rover.Proofs.Link.Receiving
import Rover.Proofs.Motion.Polar
import Rover.Proofs.Camera
import Rover.Proofs.BatteryWatch
